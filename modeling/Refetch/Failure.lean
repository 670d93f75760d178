import Refetch.Text.Numeral
import Refetch.Text.Record
import Refetch.Http.Status
/-!
# Failures

What goes wrong with a request, in three layers:

* `Failure`      anything that a source or a transport raises: a foreign failure that shows a
                 text, a `Cause`, or the error of another stage;
* `Cause`        a failure in normal form, with a message and the failure it stands for;
* `StageError`   an error that ends the output of a stage.

`Failure.normalize` brings a failure to normal form.  A cause stays what it is; any other failure
becomes the cause that stands for it, whose message is the text that the failure shows, or
`namelessFailure` if it shows none.  `sources` lists what a failure goes back to, nearest first.
-/

namespace Refetch

/-- why a request may not be retried -/
inductive Rejection where
  | budgetNotPositive
  | methodNotIdempotent
  | payloadNotReplayable
  deriving DecidableEq, Repr

mutual

/-- a failure in normal form -/
inductive Cause where
  | stated (message : String)
  /-- standing for a foreign failure that shows this text -/
  | foreign (shown : String)
  /-- standing for the error of another stage -/
  | staged (e : StageError)
  deriving DecidableEq, Repr

/-- an error that ends the output of a stage -/
inductive StageError where
  | rejected (r : Rejection)
  | dispatch (c : Cause)
  /-- a body that is passed through failed -/
  | stream (c : Cause)
  /-- a body failed after its bytes were on their way to the consumer -/
  | overflow (c : Cause)
  | exhausted (attempts : Nat) (c : Cause)
  /-- an attempt failed while an abort signal was on -/
  | aborted (c : Cause)
  /-- a retry came back without a usable body -/
  | retryFailed (target : String) (status : Http.Status) (reason : String)
  | log (c : Cause)
  | internal (message : String)
  deriving DecidableEq, Repr

end

instance : Inhabited Cause := ⟨.stated ""⟩
instance : Inhabited StageError := ⟨.internal ""⟩

/-- anything that a source or a transport raises -/
inductive Failure where
  | foreign (shown : String)
  | cause (c : Cause)
  | staged (e : StageError)
  deriving DecidableEq, Repr, Inhabited

def namelessFailure : String := "unknown stream failure"

/-- a shown text, or the message for none -/
def named (shown : String) : String := if shown.isEmpty then namelessFailure else shown

def Rejection.reason : Rejection → String
  | .budgetNotPositive => "non-positive retry budget"
  | .methodNotIdempotent => "unsafe method"
  | .payloadNotReplayable => "non-replayable payload"

/-! ## messages -/

mutual

def Cause.message : Cause → String
  | .stated m => m
  | .foreign s => named s
  | .staged e => named e.text

def StageError.text : StageError → String
  | .rejected r => "body retry rejected: " ++ r.reason
  | .dispatch c => "dispatch failed: " ++ c.message
  | .stream c => "body stream failed: " ++ c.message
  | .overflow c => "body stream failed after overflow: " ++ c.message
  | .exhausted n c =>
    "retry budget exhausted after " ++ Text.natText n ++ " attempts: " ++ c.message
  | .aborted c => "aborted: " ++ c.message
  | .retryFailed target status reason =>
    "retry of " ++ target ++ " failed: " ++ reason ++ " (status " ++ status.text ++ ")"
  | .log c => "retry logging failed: " ++ c.message
  | .internal m => "internal body retry failure: " ++ m

end

def Failure.text : Failure → String
  | .foreign s => s
  | .cause c => c.message
  | .staged e => e.text

/-! ## normal form -/

/-- a failure in normal form -/
def Failure.normalize : Failure → Cause
  | .foreign s => .foreign s
  | .cause c => c
  | .staged e => .staged e

theorem Failure.normalize_cause (c : Cause) : (Failure.cause c).normalize = c := rfl

def StageError.cause? : StageError → Option Cause
  | .dispatch c | .stream c | .overflow c | .exhausted _ c | .aborted c | .log c => some c
  | .rejected _ | .retryFailed .. | .internal _ => none

def StageError.isRejection : StageError → Bool
  | .rejected _ => true
  | _ => false

/-! ## what a failure goes back to -/

mutual

/-- the texts of the failures behind a cause, nearest first -/
def Cause.sources : Cause → List String
  | .stated _ => []
  | .foreign s => [s]
  | .staged e => e.text :: e.sources

def StageError.sources : StageError → List String
  | .exhausted _ c => c.message :: c.sources
  | .aborted c => c.message :: c.sources
  | .rejected _ | .dispatch _ | .stream _ | .overflow _ | .retryFailed .. | .log _
  | .internal _ => []

end

def Failure.sources : Failure → List String
  | .foreign _ => []
  | .cause c => c.sources
  | .staged e => e.sources

/-- the cause stands for another failure -/
def Cause.hasSource : Cause → Bool
  | .stated _ => false
  | .foreign _ | .staged _ => true

end Refetch

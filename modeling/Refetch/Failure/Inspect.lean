import Refetch.Failure
import Refetch.Text.Record
/-!
# Failures shown to a developer

* `Cause.inspect`        the message in quotes, and whether the cause stands for a failure;
* `Rejection.name`, `StageError.name`   the kinds by name;
* `StageError.inspect`   the kind with all that it carries.
-/

namespace Refetch

open Text (record tuple quoted boolText natText)

def Cause.inspect (c : Cause) : String :=
  record "StreamError" [("message", quoted c.message), ("has_source", boolText c.hasSource)]

def Rejection.name : Rejection → String
  | .budgetNotPositive => "NonPositiveBudget"
  | .methodNotIdempotent => "UnsafeMethod"
  | .payloadNotReplayable => "NonReplayablePayload"

/-- the name of the kind of a stage error -/
def StageError.name : StageError → String
  | .rejected _ => "PolicyRejected"
  | .dispatch _ => "Dispatch"
  | .stream _ => "Stream"
  | .overflow _ => "OverflowStream"
  | .exhausted .. => "RetryBudgetExhausted"
  | .aborted _ => "Aborted"
  | .retryFailed .. => "RetryFailed"
  | .log _ => "Log"
  | .internal _ => "Internal"

def StageError.inspect (e : StageError) : String :=
  match e with
  | .rejected r => tuple e.name [r.name]
  | .dispatch c | .stream c | .overflow c | .log c => tuple e.name [c.inspect]
  | .exhausted n c => record e.name [("attempts", natText n), ("source", c.inspect)]
  | .aborted c => record e.name [("source", c.inspect)]
  | .retryFailed target status reason =>
    record e.name [("target", quoted target), ("status", natText status.code),
      ("reason", quoted reason)]
  | .internal m => tuple e.name [quoted m]

end Refetch

import Refetch.Policy
/-!
# The retry machine

The pure core of a guarded body.  It is told what happens to the source of the current attempt,
and says what has to be done about it:

* `Phase`        where the machine stands;
* `Directive`    what has to be done;
* `Machine`      the phase, the attempt, the chunks held back and the counts;
* `Machine.onChunk`, `onEnd`, `onFailure`   what happens to a source;
* `Machine.beginAttempt`, `fail`, `cancel`  what happens around it.

While an attempt is buffered its chunks are held back, and handed out together at its clean end.
Once they outgrow the ceiling they are handed out at once, every later chunk as it comes, and no
attempt is made after that.
-/

namespace Refetch

inductive Phase where
  /-- holding back the chunks of the current attempt -/
  | buffering
  /-- past the ceiling, handing out chunks as they come -/
  | streaming
  /-- between a failed attempt and the next -/
  | retrying
  | completed
  | failed
  /-- closed by the consumer -/
  | cancelled
  deriving DecidableEq, Repr

/-- the output is closed -/
def Phase.isTerminal : Phase → Bool
  | .completed | .failed | .cancelled => true
  | .buffering | .streaming | .retrying => false

inductive Directive where
  | nothing
  | forward (chunks : List Bytes)
  /-- hand out these chunks, in order, and end the output -/
  | finish (chunks : List Bytes)
  /-- release the source and end the output with an error -/
  | fail (e : StageError)
  | retry (next : Nat) (cause : Cause)
  deriving DecidableEq, Repr

/-- the state of one guarded body -/
structure Machine where
  policy : Policy
  phase : Phase
  /-- the attempt that is under way, counted from one -/
  attempt : Nat
  held : List Bytes
  buffered : Nat
  /-- the bytes that came from the source of this attempt, held back or not -/
  received : Nat
  overflowed : Bool
  /-- a retry has been called for and has not begun -/
  retryPending : Bool
  deriving DecidableEq, Repr

namespace Machine

def new (p : Policy) : Machine where
  policy := p
  phase := .buffering
  attempt := 1
  held := []
  buffered := 0
  received := 0
  overflowed := false
  retryPending := false

def discard (m : Machine) : Machine := { m with held := [], buffered := 0 }

def receive (m : Machine) (n : Nat) : Machine := { m with received := addCount m.received n }

def hold (m : Machine) (c : Bytes) : Machine :=
  { m with held := m.held ++ [c], buffered := addCount m.buffered c.length }

/-- more is held back than the ceiling allows -/
def isOverCeiling (m : Machine) : Bool := m.policy.ceiling.any (· < m.buffered)

def onChunk (m : Machine) (c : Bytes) : Directive × Machine :=
  match m.phase with
  | .streaming => (.forward [c], m.receive c.length)
  | .buffering =>
    let m := (m.receive c.length).hold c
    if m.isOverCeiling then
      (.forward m.held, { m.discard with overflowed := true, phase := .streaming })
    else (.nothing, m)
  | _ => (.nothing, m)

def onEnd (m : Machine) : Directive × Machine :=
  match m.phase with
  | .buffering | .streaming => (.finish m.held, { m.discard with phase := .completed })
  | _ => (.nothing, m)

/-- the source failed; `aborted` says whether an abort signal was on at that moment -/
def onFailure (m : Machine) (cause : Cause) (aborted : Bool) : Directive × Machine :=
  if m.phase.isTerminal || m.retryPending then (.nothing, m)
  else if m.overflowed then (.fail (.overflow cause), { m.discard with phase := .failed })
  else if aborted then (.fail (.aborted cause), { m.discard with phase := .failed })
  else if m.policy.maxAttempts ≤ m.attempt then
    (.fail (.exhausted m.attempt cause), { m.discard with phase := .failed })
  else
    (.retry (m.attempt + 1) cause, { m.discard with retryPending := true, phase := .retrying })

/-- a retry got a usable source: its attempt begins; refused unless a retry was called for -/
def beginAttempt (m : Machine) : Bool × Machine :=
  if m.phase != .retrying || m.overflowed then (false, m)
  else
    (true, { m.discard with
      attempt := m.attempt + 1, received := 0, retryPending := false, phase := .buffering })

/-- an error from outside ends the output, unless it is closed -/
def fail (m : Machine) (e : StageError) : Option StageError × Machine :=
  if m.phase.isTerminal then (none, m)
  else (some e, { m.discard with phase := .failed })

def cancel (m : Machine) : Machine :=
  if m.phase.isTerminal then m else { m.discard with phase := .cancelled }

end Machine

end Refetch

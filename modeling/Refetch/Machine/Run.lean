import Refetch.Machine
/-!
# Runs of the retry machine

* `Op`             one thing a machine is told;
* `Result`         what it answers;
* `Machine.step`   one operation;
* `Machine.run`    a list of operations, with the state and the answer after each;
* `Machine.after`  the state after a list of operations.
-/

namespace Refetch

/-- one thing a machine is told -/
inductive Op where
  | chunk (c : Bytes)
  | finish
  | failure (cause : Cause) (aborted : Bool)
  | begin
  | fail (e : StageError)
  | cancel
  deriving DecidableEq, Repr

inductive Result where
  | directive (d : Directive)
  | began (b : Bool)
  | failed (e : Option StageError)
  | cancelled
  deriving DecidableEq, Repr

namespace Machine

def step (m : Machine) : Op → Result × Machine
  | .chunk c => ((.directive (m.onChunk c).1), (m.onChunk c).2)
  | .finish => (.directive m.onEnd.1, m.onEnd.2)
  | .failure cause aborted =>
    (.directive (m.onFailure cause aborted).1, (m.onFailure cause aborted).2)
  | .begin => (.began m.beginAttempt.1, m.beginAttempt.2)
  | .fail e => (.failed (m.fail e).1, (m.fail e).2)
  | .cancel => (.cancelled, m.cancel)

/-- the answers to a list of operations, each with the state after it -/
def run (m : Machine) : List Op → List (Result × Machine)
  | [] => []
  | op :: ops => m.step op :: (m.step op).2.run ops

/-- the state after a list of operations -/
def after (m : Machine) (ops : List Op) : Machine := ops.foldl (fun m op => (m.step op).2) m

theorem after_nil (m : Machine) : m.after [] = m := rfl

theorem after_cons (m : Machine) (op : Op) (ops : List Op) :
    m.after (op :: ops) = (m.step op).2.after ops := rfl

theorem after_append (m : Machine) (a b : List Op) :
    m.after (a ++ b) = (m.after a).after b := by
  simp [after, List.foldl_append]

end Machine

end Refetch

import Refetch.Scenario.Step
/-!
# Scenarios

* `Scenario`       the settings of the stages, the scripts and the steps;
* `Scenario.run`   the report of every step with what was noted during it, what was noted when
                   the remaining bodies were dropped, and the number of scripts that no call took.
-/

namespace Refetch

open Scenario

structure Scenario where
  config : Config
  inner : List Config
  log : LogMode
  pauses : PauseMode
  script : List (List CallAction)
  steps : List Step

namespace Scenario

structure Outcome where
  steps : List (Report × List Entry)
  final : List Entry
  unused : Nat

/-- the moves that a step can take part in -/
def Step.weight : Step → Nat
  | .execute _ e =>
    match e.upload with
    | .stream as => sourceWeight as + 1
    | .whole _ => 1
  | _ => 1

/-- more moves than the scenario can take -/
def limit (s : Scenario) : Nat :=
  64 * (total (s.script.map callWeight) + total (s.steps.map Step.weight) + 16)

def start (s : Scenario) : World where
  inner := s.inner
  log := s.log
  pauses := s.pauses
  limit := s.limit
  script := s.script

namespace World

/-- what has been noted, oldest first, and the world without it -/
def takeNotes (w : World) : List Entry × World := (w.notes.reverse, { w with notes := [] })

/-- the reports of steps, each with what was noted until everything had settled -/
def runSteps (w : World) (config : Config) : List Step → List (Report × List Entry) × World
  | [] => ([], w)
  | s :: rest =>
    let (r, w) := w.act config s
    let (notes, w) := w.settle.takeNotes
    let (rs, w) := runSteps w config rest
    ((r, notes) :: rs, w)

/-- the remaining bodies dropped one after the other, in the order of their slots -/
def dropAll (w : World) : World :=
  let slots := (w.bodies.map Prod.fst).mergeSort fun a b => !(b < a)
  slots.foldl (fun w s => (w.drop s).2.settle) w

end World

def run (s : Scenario) : Outcome :=
  let (steps, w) := s.start.runSteps s.config s.steps
  let w := w.dropAll
  ⟨steps, w.takeNotes.1, w.script.length⟩

end Scenario

end Refetch

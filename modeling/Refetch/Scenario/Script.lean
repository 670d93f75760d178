import Refetch.Stage
/-!
# Scripted collaborators

A scenario replaces the surroundings of a stage by scripts:

* `Breakdown`       how a collaborator breaks down;
* `Deed`            what a script does besides its own work;
* `SourceAction`    one line of a source's script;
* `Reply`, `CallAction`   one line of a transport call's script;
* `LogMode`, `PauseMode`  how the log and the pauses behave;
* `weight`          the number of moves that a script can take part in.
-/

namespace Refetch.Scenario

/-- the name of a request and of its body -/
abbrev Slot := String

/-- the name of something that scripts wait for -/
abbrev Gate := String

inductive Which where
  | request
  | context
  deriving DecidableEq, Repr

inductive Breakdown where
  | words (s : String)
  | wordless
  deriving DecidableEq, Repr

/-- the message of a breakdown inside a driver -/
def Breakdown.message : Breakdown → String
  | .words s => s
  | .wordless => "retry driver panicked"

/-- what a script does besides its own work -/
inductive Deed where
  | close (s : Slot)
  | drop (s : Slot)
  | abort (s : Slot) (w : Which)
  deriving DecidableEq, Repr

/-- one line of a source's script -/
inductive SourceAction where
  | chunk (c : Bytes)
  | fail (f : Failure)
  | finish
  /-- wait until a gate is open -/
  | gate (g : Gate)
  /-- let the others move first, so many times -/
  | wait (n : Nat)
  | deed (d : Deed)
  | hang
  | breakDown (b : Breakdown)

structure Reply where
  status : Option Http.Status
  fields : Http.Fields
  body : Option (List SourceAction)
  /-- the verdict, if it is not the one that the status gives -/
  ok : Option Bool

/-- one line of a call's script -/
inductive CallAction where
  | respond (r : Reply)
  | fail (f : Failure)
  | gate (g : Gate)
  | wait (n : Nat)
  | deed (d : Deed)
  | take
  | hang
  | breakDown (b : Breakdown)

inductive LogMode where
  | record
  /-- takes the event without looking at the record -/
  | lazy
  /-- looks at the record, and refuses the n-th event -/
  | failAt (n : Nat) (message : String)
  /-- looks at the record, and breaks down at the n-th event -/
  | breakAt (n : Nat) (b : Breakdown)
  /-- writes the record out, or nothing at all -/
  | leveled (shown : Bool)

inductive PauseMode where
  | record
  | stall
  /-- pass when the gate `delay` is open -/
  | gate
  | breakDown
  | clock
  deriving DecidableEq, Repr

/-! ## weights -/

def total (ns : List Nat) : Nat := ns.foldr (fun n m => n + m) 0

/-- the moves that a line of a source's script can take part in -/
def SourceAction.weight : SourceAction → Nat
  | .wait n => n + 1
  | _ => 1

def sourceWeight (as : List SourceAction) : Nat := total (as.map SourceAction.weight) + 1

def CallAction.weight : CallAction → Nat
  | .wait n => n + 1
  | .respond r => sourceWeight (r.body.getD []) + 1
  | _ => 1

def callWeight (as : List CallAction) : Nat := total (as.map CallAction.weight) + 1

end Refetch.Scenario

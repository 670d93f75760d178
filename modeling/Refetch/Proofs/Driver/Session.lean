import Mathlib.Data.List.DropRight
import Mathlib.Data.Stream.Defs
import Mathlib.Logic.Function.Iterate
import Refetch.Driver
/-!
# A driver in its surroundings

A driver on its own, whose consumer never closes the output:

* `Source`          the chunks that a body delivers, and how it ends;
* `Attempt`         a body together with the length that its response promised;
* `Surroundings`    what the log, the abort signals and the transport will say, one reply a time;
* `Note`            one thing that was seen of the driver;
* `Session`         a driver, what is left of its surroundings, and what was seen so far;
* `Session.step`    the driver asks for one thing, and is told;
* `Session.Ends`    the run comes to its end in a session.

A collaborator that breaks down says so with its words.  A pause always passes, and an item that
is sent always finds room: with a consumer that does not close, waiting is all that can happen.
-/

namespace Refetch

inductive Ending where
  | clean
  | failure (f : Failure)
  | breakdown (words : String)

structure Source where
  chunks : List Bytes
  ending : Ending

/-- a body, with the length that its response promised -/
structure Attempt where
  source : Source
  promised : Option Nat

/-- what a collaborator comes to: a result, or the words of its breakdown -/
abbrev Fallible (α : Type) := Except String α

/-- what a driver will be told, one reply a time -/
structure Surroundings where
  /-- the log takes an event, refuses it with a cause, or breaks down -/
  logs : Stream' (Fallible (Option Cause))
  /-- whether an abort signal is on when the next body comes to its end -/
  aborts : Stream' Bool
  /-- what the next call of the transport comes to -/
  replies : Stream' (Fallible (Except Failure (Response Source)))

/-- one thing that was seen of a driver -/
inductive Note where
  | began (t : Attempt)
  | logged (r : LogRecord) (reply : Fallible (Option Cause))
  | paused (d : Delay)
  | called (r : Request) (c : Context)
  | sent (i : Item)

/-- what the end of a body is to the driver that reads it -/
def Ending.answer : Ending → Answer Source
  | .clean => .ended
  | .failure f => .failed f
  | .breakdown words => .brokeDown words

def Fallible.answer {α : Type} (f : α → Answer Source) : Fallible α → Answer Source
  | .ok a => f a
  | .error words => .brokeDown words

/-- a driver, what is left of its surroundings, and what was seen so far -/
structure Session where
  driver : Driver Source
  around : Surroundings
  notes : List Note

namespace Session

def start (a : Assignment Source) (w : Surroundings) : Session where
  driver := .start a
  around := w
  notes := [.began ⟨a.source, a.promised⟩]

def told (s : Session) (d : Driver Source) (a : Answer Source) : Driver Source :=
  (d.react ⟨false, s.around.aborts.head⟩ a).1

/-- the driver reads one item of its body; an abort signal matters only at the end of one -/
def read (s : Session) (src : Source) : Session :=
  match src.chunks with
  | c :: cs =>
    { s with driver := s.told { s.driver with source := some ⟨cs, src.ending⟩ } (.chunk c) }
  | [] =>
    { s with
      driver := s.told s.driver src.ending.answer
      around := { s.around with aborts := s.around.aborts.tail } }

def log (s : Session) (r : LogRecord) : Session where
  driver := s.told s.driver (Fallible.answer .logged s.around.logs.head)
  around := { s.around with logs := s.around.logs.tail }
  notes := s.notes ++ [.logged r s.around.logs.head]

/-- the attempt that a response makes, if the driver took it up -/
def takenUp (d : Driver Source) (m : Http.Method) :
    Fallible (Except Failure (Response Source)) → List Note
  | .ok (.ok r) => d.source.toList.map fun src => .began ⟨src, r.expectedLength m⟩
  | _ => []

def call (s : Session) (r : Request) (c : Context) : Session where
  driver := s.told s.driver (Fallible.answer .responded s.around.replies.head)
  around := { s.around with replies := s.around.replies.tail }
  notes := s.notes ++ [.called r c] ++
    takenUp (s.told s.driver (Fallible.answer .responded s.around.replies.head)) r.method
      s.around.replies.head

/-- the driver asks for one thing, and is told -/
def step (s : Session) : Session :=
  match s.driver.ask false with
  | .item src => s.read src
  | .log r => s.log r
  | .room i => { s with driver := s.told s.driver .sent, notes := s.notes ++ [.sent i] }
  | .pause d => { s with driver := s.told s.driver .elapsed, notes := s.notes ++ [.paused d] }
  | .response r c => s.call r c
  | .word => s
  | .nothing => s

/-! ## runs -/

/-- some steps lead from one session to another -/
def Leads (s t : Session) : Prop := ∃ n, step^[n] s = t

theorem Leads.refl (s : Session) : Leads s s := ⟨0, rfl⟩

theorem Leads.of_step {s t : Session} (h : s.step = t) : Leads s t := ⟨1, h⟩

theorem Leads.trans {s t u : Session} (h : Leads s t) (h' : Leads t u) : Leads s u := by
  obtain ⟨m, rfl⟩ := h
  obtain ⟨n, rfl⟩ := h'
  exact ⟨n + m, Function.iterate_add_apply step n m s⟩

theorem Leads.step {s t : Session} (h : Leads s.step t) : Leads s t :=
  (Leads.of_step rfl).trans h

/-- the run comes to its end in `t`: the driver is done -/
def Ends (s t : Session) : Prop := Leads s t ∧ t.driver.point = .stopped

theorem step_stopped (s : Session) (h : s.driver.point = .stopped) : s.step = s := by
  have hask : s.driver.ask false = .nothing := by rw [Driver.ask, h]
  rw [Session.step, hask]

theorem iterate_stopped (s : Session) (h : s.driver.point = .stopped) (n : Nat) :
    Session.step^[n] s = s :=
  Function.iterate_fixed (step_stopped s h) n

theorem Ends.unique {s t u : Session} (ht : Ends s t) (hu : Ends s u) : t = u := by
  obtain ⟨⟨m, rfl⟩, hm⟩ := ht
  obtain ⟨⟨n, rfl⟩, hn⟩ := hu
  rcases Nat.le_total m n with h | h
  · rw [← Nat.sub_add_cancel h, Function.iterate_add_apply, iterate_stopped _ hm]
  · rw [← Nat.sub_add_cancel h, Function.iterate_add_apply, iterate_stopped _ hn]

theorem Ends.of_leads {s t u : Session} (h : Leads s t) (hu : Ends t u) : Ends s u :=
  ⟨h.trans hu.1, hu.2⟩

/-! ## what was seen -/

def itemOf : Note → Option Item
  | .sent i => some i
  | _ => none

def attemptOf : Note → Option Attempt
  | .began t => some t
  | _ => none

def isCall : Note → Bool
  | .called _ _ => true
  | _ => false

/-- an overflow was logged, and the log took it -/
def isOverflowTaken : Note → Bool
  | .logged r (.ok none) => r.event == .overflow
  | _ => false

def sent (s : Session) : List Item := s.notes.filterMap itemOf

def attempts (s : Session) : List Attempt := s.notes.filterMap attemptOf

/-- the number of transport calls, the one that gave the first response included -/
def dispatches (s : Session) : Nat := 1 + s.notes.countP isCall

def sinceBegan (notes : List Note) : List Note := notes.rtakeWhile fun x => (attemptOf x).isNone

/-- the log took an overflow of the last attempt -/
def overflowTaken (s : Session) : Bool := (sinceBegan s.notes).any isOverflowTaken

/-- the error that ended the output, if one did -/
def verdict (s : Session) : Option StageError :=
  match s.sent.getLast? with
  | some (.error e) => some e
  | _ => none

end Session

end Refetch

import Refetch.Stage
/-!
# What a program does

A program is gone through from its root, whatever the transport answers:

* `Act`             a call of the transport with what it came to, or the start of a driver;
* `Program.Does`    the acts of a program, in order, and its result;
* `called`, `started`   the calls and the starts among some acts.
-/

namespace Refetch

inductive Act where
  | called (r : Request) (c : Context) (o : Outcome)
  | started (a : Assignment Feed) (n : OutputId)

/-- a call of the transport, with what it came to -/
structure Called where
  request : Request
  context : Context
  outcome : Outcome

def called (acts : List Act) : List Called :=
  acts.filterMap fun
    | .called r c o => some ⟨r, c, o⟩
    | .started _ _ => none

/-- the drivers started among some acts, each with its output -/
def started (acts : List Act) : List (Assignment Feed × OutputId) :=
  acts.filterMap fun
    | .called _ _ _ => none
    | .started a n => some (a, n)

theorem called_call (r : Request) (c : Context) (o : Outcome) (acts : List Act) :
    called (.called r c o :: acts) = ⟨r, c, o⟩ :: called acts := rfl

namespace Program

variable {α : Type}

/-- a program does these things, in this order, and comes to a result -/
inductive Does : Program α → List Act → α → Prop where
  | done (a : α) : Does (.done a) [] a
  | call {r : Request} {c : Context} {k : Outcome → Program α} (o : Outcome) {acts : List Act}
      {a : α} (rest : Does (k o) acts a) : Does (.call r c k) (.called r c o :: acts) a
  | spawn {x : Assignment Feed} {k : OutputId → Program α} (n : OutputId) {acts : List Act} {a : α}
      (rest : Does (k n) acts a) : Does (.spawn x k) (.started x n :: acts) a

theorem does_done {a b : α} {acts : List Act} :
    (Program.done a).Does acts b ↔ acts = [] ∧ b = a := by
  constructor
  · rintro ⟨⟩
    exact ⟨rfl, rfl⟩
  · rintro ⟨rfl, rfl⟩
    exact .done b

theorem does_call {r : Request} {c : Context} {k : Outcome → Program α} {acts : List Act} {a : α} :
    (Program.call r c k).Does acts a ↔
      ∃ o rest, acts = .called r c o :: rest ∧ (k o).Does rest a := by
  constructor
  · intro h
    cases h with
    | call o rest => exact ⟨o, _, rfl, rest⟩
  · rintro ⟨o, rest, rfl, h⟩
    exact .call o h

theorem does_spawn {x : Assignment Feed} {k : OutputId → Program α} {acts : List Act} {a : α} :
    (Program.spawn x k).Does acts a ↔
      ∃ n rest, acts = .started x n :: rest ∧ (k n).Does rest a := by
  constructor
  · intro h
    cases h with
    | spawn n rest => exact ⟨n, _, rfl, rest⟩
  · rintro ⟨n, rest, rfl, h⟩
    exact .spawn n h

/-- a program comes to a result, whatever it meets -/
theorem exists_does (p : Program α) : ∃ acts a, p.Does acts a := by
  induction p with
  | done a => exact ⟨[], a, .done a⟩
  | call r c k ih =>
    obtain ⟨acts, a, h⟩ := ih (.error (.foreign ""))
    exact ⟨_, a, .call _ h⟩
  | spawn a k ih =>
    obtain ⟨acts, a, h⟩ := ih 0
    exact ⟨_, a, .spawn 0 h⟩

end Program

end Refetch

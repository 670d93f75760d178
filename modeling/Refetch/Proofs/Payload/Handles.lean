import Mathlib.Data.List.Induction
import Refetch.Payload
/-!
# A stream that is handed out once

* `Handles.after`      the handles after a list of moves, each at the place of its handle;
* `Handles.isLive`     the handle at a place, counted round, is still held;
* `Handles.wasTaken`   a take was made on a live handle, at any place and any time before;
* `Handles.reply`      what a move is answered, by these two facts alone;
* `step_reply`         every move is answered so, in every state that is reached;
* `handed_out_once`    the first take on a live handle gets the whole stream, whichever handle that
                       is, and no other take gets anything.
-/

namespace Refetch

def HandleAnswer.content? {α : Type} : HandleAnswer α → Option α
  | .taken c => c
  | _ => none

namespace Handles

variable {α : Type}

def after (h : Handles α) (ms : List (HandleMove × Nat)) : Handles α :=
  ms.foldl (fun h m => (h.step m.1 m.2).2) h

/-- the handle at place `i`, counted round, is still held -/
def isLive (h : Handles α) (i : Nat) : Bool := h.held.getD (i % h.held.length) false

/-- a take was made on a handle that was live then -/
def wasTaken (h : Handles α) : List (HandleMove × Nat) → Bool
  | [] => false
  | (m, i) :: ms => (m == .take && h.isLive i) || (h.step m i).2.wasTaken ms

/-- the answer to a move on a live or a dropped handle, of a stream that was taken or not -/
def reply (a : α) (live taken : Bool) (m : HandleMove) : HandleAnswer α :=
  if live then
    match m with
    | .take => .taken (if taken then none else some a)
    | .consumed => .truth taken
    | .replayable => .truth false
    | .inspect => .shown (SinglePass.mk (if taken then none else some a)).inspect
    | .clone => .done
    | .drop => .done
  else .gone

theorem after_cons (h : Handles α) (m : HandleMove) (i : Nat) (ms : List (HandleMove × Nat)) :
    h.after ((m, i) :: ms) = (h.step m i).2.after ms := rfl

theorem after_append (h : Handles α) (a b : List (HandleMove × Nat)) :
    h.after (a ++ b) = (h.after a).after b := by
  simp [after, List.foldl_append]

theorem run_append (h : Handles α) (a b : List (HandleMove × Nat)) :
    h.run (a ++ b) = h.run a ++ (h.after a).run b := by
  induction a generalizing h with
  | nil => rfl
  | cons m ms ih =>
    rw [List.cons_append, run, run, ih, List.cons_append]
    rfl

theorem length_run (h : Handles α) (ms : List (HandleMove × Nat)) :
    (h.run ms).length = ms.length := by
  induction ms generalizing h with
  | nil => rfl
  | cons m ms ih => rw [run, List.length_cons, List.length_cons, ih]

theorem getElem?_run (h : Handles α) {ms : List (HandleMove × Nat)} {k : Nat} {m : HandleMove}
    {i : Nat} (hk : ms[k]? = some (m, i)) :
    (h.run ms)[k]? = some ((h.after (ms.take k)).step m i).1 := by
  obtain ⟨hlt, hm⟩ := List.getElem?_eq_some_iff.mp hk
  have hsplit : ms = ms.take k ++ (m, i) :: ms.drop (k + 1) := by
    rw [← hm, ← List.drop_eq_getElem_cons hlt, List.take_append_drop]
  have hlen : (h.run (ms.take k)).length = k := by
    rw [length_run, List.length_take]
    omega
  conv_lhs => rw [hsplit]
  rw [run_append, List.getElem?_append_right (Nat.le_of_eq hlen), hlen, Nat.sub_self]
  rfl

theorem wasTaken_append (h : Handles α) (a b : List (HandleMove × Nat)) :
    h.wasTaken (a ++ b) = (h.wasTaken a || (h.after a).wasTaken b) := by
  induction a generalizing h with
  | nil => rfl
  | cons m ms ih =>
    obtain ⟨m, i⟩ := m
    rw [List.cons_append, wasTaken, wasTaken, ih, after_cons, Bool.or_assoc]

theorem wasTaken_snoc (h : Handles α) (ms : List (HandleMove × Nat)) (m : HandleMove) (i : Nat) :
    h.wasTaken (ms ++ [(m, i)]) = (h.wasTaken ms || (m == .take && (h.after ms).isLive i)) := by
  rw [wasTaken_append, wasTaken, wasTaken, Bool.or_false]

theorem wasTaken_iff (h : Handles α) (ms : List (HandleMove × Nat)) :
    h.wasTaken ms = true ↔
      ∃ before i rest, ms = before ++ (.take, i) :: rest ∧ (h.after before).isLive i = true := by
  constructor
  · induction ms generalizing h with
    | nil => exact nofun
    | cons m ms ih =>
      obtain ⟨m, i⟩ := m
      intro ht
      rw [wasTaken, Bool.or_eq_true, Bool.and_eq_true, beq_iff_eq] at ht
      rcases ht with ⟨rfl, hlive⟩ | ht
      · exact ⟨[], i, ms, rfl, hlive⟩
      · obtain ⟨before, j, rest, rfl, hlive⟩ := ih _ ht
        exact ⟨(m, i) :: before, j, rest, rfl, hlive⟩
  · rintro ⟨before, i, rest, rfl, hlive⟩
    rw [wasTaken_append, wasTaken, hlive]
    simp

/-! ## one move -/

theorem step_gone (h : Handles α) (m : HandleMove) {i : Nat} (hi : h.isLive i = false) :
    h.step m i = (.gone, h) := by
  have hheld : h.held.getD (i % h.held.length) false = false := hi
  simp only [step, hheld, Bool.false_eq_true, if_false]

theorem step_cell (h : Handles α) (m : HandleMove) (i : Nat) :
    (h.step m i).2.cell = if m == .take && h.isLive i then ⟨none⟩ else h.cell := by
  cases hi : h.isLive i with
  | false => rw [step_gone h m hi, Bool.and_false, if_neg Bool.false_ne_true]
  | true =>
    have hheld : h.held.getD (i % h.held.length) false = true := hi
    simp only [step, hheld, if_true]
    cases m <;> rfl

theorem step_answer (h : Handles α) {a : α} {taken : Bool}
    (hcell : h.cell = ⟨if taken then none else some a⟩) (m : HandleMove) (i : Nat) :
    (h.step m i).1 = reply a (h.isLive i) taken m := by
  cases hi : h.isLive i with
  | false => rw [step_gone h m hi]; rfl
  | true =>
    have hheld : h.held.getD (i % h.held.length) false = true := hi
    simp only [step, hheld, if_true, hcell]
    cases m <;> cases taken <;> rfl

theorem isLive_iff (h : Handles α) (i : Nat) :
    h.isLive i = true ↔ h.held[i % h.held.length]? = some true := by
  rw [isLive, List.getD_eq_getElem?_getD]
  cases h.held[i % h.held.length]? <;> simp

theorem held_clone (h : Handles α) {i : Nat} (hi : h.isLive i = true) :
    (h.step .clone i).2.held = h.held ++ [true] := by
  have hheld : h.held.getD (i % h.held.length) false = true := hi
  simp only [step, hheld, if_true]

theorem held_drop (h : Handles α) {i : Nat} (hi : h.isLive i = true) :
    (h.step .drop i).2.held = h.held.set (i % h.held.length) false := by
  have hheld : h.held.getD (i % h.held.length) false = true := hi
  simp only [step, hheld, if_true]

theorem held_other (h : Handles α) {m : HandleMove} {i : Nat} (hi : h.isLive i = true)
    (hclone : m ≠ .clone) (hdrop : m ≠ .drop) : (h.step m i).2.held = h.held := by
  have hheld : h.held.getD (i % h.held.length) false = true := hi
  simp only [step, hheld, if_true]
  cases m <;> first | rfl | contradiction

/-- a handle stays live until it is dropped itself, and a clone of a live handle is one more -/
theorem step_held (h : Handles α) (m : HandleMove) (i j : Nat) :
    (h.step m i).2.held[j]? = some true ↔
      (h.held[j]? = some true ∧ ¬ (m = .drop ∧ j = i % h.held.length)) ∨
        m = .clone ∧ h.isLive i = true ∧ j = h.held.length := by
  cases hi : h.isLive i with
  | false =>
    rw [step_gone h m hi]
    have hdead : h.held[i % h.held.length]? ≠ some true := fun hlive => by
      rw [(isLive_iff h i).mpr hlive] at hi
      cases hi
    constructor
    · intro hj
      refine .inl ⟨hj, ?_⟩
      rintro ⟨-, rfl⟩
      exact hdead hj
    · rintro (⟨hj, -⟩ | ⟨-, hi', -⟩)
      · exact hj
      · cases hi'
  | true =>
    by_cases hclone : m = .clone
    · subst hclone
      rw [held_clone h hi, List.getElem?_append]
      by_cases hj : j < h.held.length
      · simp [hj]
        omega
      · by_cases hlast : j = h.held.length
        · simp [hlast]
        · have hout : [true][j - h.held.length]? = none := List.getElem?_eq_none (by simp; omega)
          simp [hj, hout, hlast]
    · by_cases hdrop : m = .drop
      · subst hdrop
        rw [held_drop h hi, List.getElem?_set]
        by_cases hj : i % h.held.length = j
        · simp [hj]
        · simp [hj, Ne.symm hj]
      · rw [held_other h hi hclone hdrop]
        simp [hclone, hdrop]

/-! ## a whole run -/

theorem cell_after (a : α) (ms : List (HandleMove × Nat)) :
    ((new a).after ms).cell = ⟨if (new a).wasTaken ms then none else some a⟩ := by
  induction ms using List.reverseRecOn with
  | nil => rfl
  | append_singleton ms m ih =>
    obtain ⟨m, i⟩ := m
    rw [after_append, wasTaken_snoc]
    show (((new a).after ms).step m i).2.cell = _
    rw [step_cell, ih]
    cases (new a).wasTaken ms <;> cases (m == .take && ((new a).after ms).isLive i) <;> rfl

theorem step_reply (a : α) (ms : List (HandleMove × Nat)) (m : HandleMove) (i : Nat) :
    (((new a).after ms).step m i).1 =
      reply a (((new a).after ms).isLive i) ((new a).wasTaken ms) m :=
  step_answer _ (cell_after a ms) m i

theorem content?_reply (a : α) (live taken : Bool) (m : HandleMove) :
    (reply a live taken m).content? = if m == .take && live && !taken then some a else none := by
  cases live <;> cases taken <;> cases m <;> rfl

theorem contents_run (a : α) (ms : List (HandleMove × Nat)) :
    ((new a).run ms).filterMap HandleAnswer.content? =
      if (new a).wasTaken ms then [a] else [] := by
  induction ms using List.reverseRecOn with
  | nil => rfl
  | append_singleton ms m ih =>
    obtain ⟨m, i⟩ := m
    have hlast : ((new a).after ms).run [(m, i)] = [(((new a).after ms).step m i).1] := rfl
    rw [run_append, List.filterMap_append, ih, hlast, step_reply, wasTaken_snoc,
      List.filterMap_cons, content?_reply]
    cases (new a).wasTaken ms <;> cases (m == .take) <;> cases ((new a).after ms).isLive i <;> rfl

/-- However takes, questions, clones and drops follow each other on a growing family of handles:
every move on a live handle is answered by whether a live handle was taken from before, so that the
first take gets all items in their order and every later one nothing.  No other move takes anything
away, a handle stays live until it is dropped itself, and no handle makes a payload that can be
sent again. -/
theorem handed_out_once (items : List StreamItem) (ms : List (HandleMove × Nat)) :
    (∀ m i, (((new items).after ms).step m i).1 =
      reply items (((new items).after ms).isLive i) ((new items).wasTaken ms) m) ∧
    ((new items).wasTaken ms = true ↔ ∃ before i rest, ms = before ++ (.take, i) :: rest ∧
      ((new items).after before).isLive i = true) ∧
    (∀ k m i, ms[k]? = some (m, i) →
      ((new items).run ms)[k]? = some (((new items).after (ms.take k)).step m i).1) ∧
    ((new items).run ms).filterMap HandleAnswer.content? =
      (if (new items).wasTaken ms then [items] else []) ∧
    (∀ m i, m ≠ .take →
      (((new items).after ms).step m i).2.cell = ((new items).after ms).cell) ∧
    (∀ m i j, (((new items).after ms).step m i).2.held[j]? = some true ↔
      (((new items).after ms).held[j]? = some true ∧
        ¬ (m = .drop ∧ j = i % ((new items).after ms).held.length)) ∨
      m = .clone ∧ ((new items).after ms).isLive i = true ∧
        j = ((new items).after ms).held.length) ∧
    ∀ cell, (Payload.stream cell).isReplayable = false := by
  refine ⟨step_reply items ms, wasTaken_iff _ ms, fun k m i hk => getElem?_run _ hk,
    contents_run items ms, ?kept, step_held _, fun _ => rfl⟩
  case kept =>
    intro m i hm
    rw [step_cell, beq_false_of_ne hm]
    rfl

end Handles

end Refetch

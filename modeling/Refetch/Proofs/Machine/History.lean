import Mathlib.Data.List.DropRight
import Mathlib.Data.List.Induction
import Refetch.Machine.Run
/-!
# Histories of the retry machine

What a machine was told and what it answered, in order:

* `Event`             one operation, with the phase it found and the answer it got;
* `Machine.history`   the events of a run;
* `accepted`          the chunks that the current attempt took in;
* `handedOut`         the chunks that the whole run handed out;
* `retryCalled`       a retry has been called for since the current attempt began;
* `closedFrom`        the phase that the last event on an open output found.

The current attempt begins with the last `begin` that was granted, or with the machine.
-/

namespace Refetch

def Op.isChunk : Op → Bool
  | .chunk _ => true
  | _ => false

/-- one operation, with the phase it found and the answer it got -/
structure Event where
  phase : Phase
  op : Op
  result : Result

namespace Event

def isBegin (e : Event) : Bool :=
  match e.result with
  | .began b => b
  | _ => false

def isRetry (e : Event) : Bool :=
  match e.result with
  | .directive (.retry _ _) => true
  | _ => false

/-- the chunk that was taken in: one that came while the machine was buffering or streaming -/
def taken (e : Event) : List Bytes :=
  match e.phase, e.op with
  | .buffering, .chunk c => [c]
  | .streaming, .chunk c => [c]
  | _, _ => []

def given (e : Event) : List Bytes :=
  match e.result with
  | .directive (.forward cs) => cs
  | .directive (.finish cs) => cs
  | _ => []

end Event

/-- what a machine was told and answered, oldest first -/
abbrev History := List Event

/-- the events of the current attempt -/
def sinceBegin (h : History) : History := h.rtakeWhile fun e => !e.isBegin

/-- the chunks that the current attempt took in -/
def accepted (h : History) : List Bytes := (sinceBegin h).flatMap Event.taken

def handedOut (h : History) : List Bytes := h.flatMap Event.given

/-- a retry has been called for since the current attempt began -/
def retryCalled (h : History) : Bool := (sinceBegin h).any Event.isRetry

/-- the phase that the last event on an open output found -/
def closedFrom (h : History) : Option Phase :=
  ((h.filter fun e => !e.phase.isTerminal).getLast?).map Event.phase

/-! ## one more event -/

theorem sinceBegin_snoc (h : History) (e : Event) :
    sinceBegin (h ++ [e]) = if e.isBegin then [] else sinceBegin h ++ [e] := by
  unfold sinceBegin
  rw [List.rtakeWhile_concat]
  cases e.isBegin <;> rfl

theorem accepted_begin (h : History) (e : Event) (he : e.isBegin = true) :
    accepted (h ++ [e]) = [] := by
  rw [accepted, sinceBegin_snoc, if_pos he, List.flatMap_nil]

theorem accepted_snoc (h : History) (e : Event) (he : e.isBegin = false) :
    accepted (h ++ [e]) = accepted h ++ e.taken := by
  rw [accepted, sinceBegin_snoc, if_neg (by rw [he]; exact Bool.false_ne_true), List.flatMap_append,
    List.flatMap_singleton, ← accepted]

theorem handedOut_append (a b : History) : handedOut (a ++ b) = handedOut a ++ handedOut b :=
  List.flatMap_append

theorem handedOut_snoc (h : History) (e : Event) : handedOut (h ++ [e]) = handedOut h ++ e.given := by
  rw [handedOut_append, handedOut, handedOut, List.flatMap_singleton]

theorem retryCalled_begin (h : History) (e : Event) (he : e.isBegin = true) :
    retryCalled (h ++ [e]) = false := by
  rw [retryCalled, sinceBegin_snoc, if_pos he, List.any_nil]

theorem retryCalled_snoc (h : History) (e : Event) (he : e.isBegin = false) :
    retryCalled (h ++ [e]) = (retryCalled h || e.isRetry) := by
  rw [retryCalled, sinceBegin_snoc, if_neg (by rw [he]; exact Bool.false_ne_true), List.any_append,
    List.any_cons, List.any_nil, Bool.or_false, ← retryCalled]

theorem closedFrom_open (h : History) (e : Event) (he : e.phase.isTerminal = false) :
    closedFrom (h ++ [e]) = some e.phase := by
  simp [closedFrom, List.filter_append, he]

theorem closedFrom_closed (h : History) (e : Event) (he : e.phase.isTerminal = true) :
    closedFrom (h ++ [e]) = closedFrom h := by
  simp [closedFrom, List.filter_append, he]

/-! ## the history of a run -/

namespace Machine

def history (m : Machine) : List Op → History
  | [] => []
  | op :: ops => ⟨m.phase, op, (m.step op).1⟩ :: (m.step op).2.history ops

theorem history_nil (m : Machine) : m.history [] = [] := rfl

theorem history_cons (m : Machine) (op : Op) (ops : List Op) :
    m.history (op :: ops) = ⟨m.phase, op, (m.step op).1⟩ :: (m.step op).2.history ops := rfl

theorem history_append (m : Machine) (a b : List Op) :
    m.history (a ++ b) = m.history a ++ (m.after a).history b := by
  induction a generalizing m with
  | nil => rfl
  | cons op ops ih =>
    rw [List.cons_append, history_cons, history_cons, ih, List.cons_append]
    rfl

/-- a stretch at the start of a history is the history of the operations at the start -/
theorem history_split (m : Machine) (ops : List Op) (xs ys : History)
    (h : m.history ops = xs ++ ys) :
    ∃ a b, ops = a ++ b ∧ m.history a = xs ∧ (m.after a).history b = ys := by
  induction xs generalizing m ops with
  | nil => exact ⟨[], ops, rfl, rfl, h⟩
  | cons x xs ih =>
    cases ops with
    | nil => cases h
    | cons op ops =>
      rw [history_cons, List.cons_append] at h
      obtain ⟨hx, ht⟩ := List.cons.inj h
      obtain ⟨a, b, rfl, ha, hb⟩ := ih (m.step op).2 ops ht
      exact ⟨op :: a, b, rfl, by rw [history_cons, ha, hx], hb⟩

theorem history_snoc (m : Machine) (ops : List Op) (op : Op) :
    m.history (ops ++ [op])
      = m.history ops ++ [⟨(m.after ops).phase, op, ((m.after ops).step op).1⟩] := by
  rw [history_append, history_cons, history_nil]

theorem after_snoc (m : Machine) (ops : List Op) (op : Op) :
    m.after (ops ++ [op]) = ((m.after ops).step op).2 := by
  rw [after_append, after_cons, after_nil]

end Machine

end Refetch

import Refetch.Stage
import Refetch.Proofs.Machine.Closing
/-!
# The ceiling, counted and declared

Two places look at the ceiling: the machine, which counts the bytes of an attempt as they come, and
the stage, which looks at the length that a response promises before any byte came.

* `switched h`             some chunk of the current attempt was handed out as it came;
* `overflowed_eq_exceeds`  the machine's flag says whether its count exceeds the ceiling;
* `switched_eq`            the flag says whether the attempt switched to streaming;
* `reading_chunks`         an attempt that is read takes in every chunk;
* `counted_as_declared`    an attempt switches just when its length, had it been declared, would
                           have kept the body out of the driver's hands.

Both are one comparison, of a count that stops at the largest 64-bit word.
-/

namespace Refetch

open Machine

/-- some chunk of the current attempt was handed out as it came -/
def switched (h : History) : Bool := (sinceBegin h).any Event.isForward

theorem switched_begin (h : History) (e : Event) (he : e.isBegin = true) :
    switched (h ++ [e]) = false := by
  rw [switched, sinceBegin_snoc, if_pos he, List.any_nil]

theorem switched_snoc (h : History) (e : Event) (he : e.isBegin = false) :
    switched (h ++ [e]) = (switched h || e.isForward) := by
  rw [switched, sinceBegin_snoc, if_neg (by simp [he]), List.any_append, ← switched]
  simp

theorem switched_quiet (h : History) (e : Event) (he : e.isBegin = false)
    (hf : e.isForward = false) : switched (h ++ [e]) = switched h := by
  rw [switched_snoc h e he, hf, Bool.or_false]

theorem isForward_refusal (ph : Phase) (op : Op) :
    (⟨ph, op, refusal op⟩ : Event).isForward = false := by
  cases op <;> rfl

/-! ## the comparison -/

theorem exceeds_some (n : Nat) (c : Option Nat) : Http.exceeds (some n) c = c.any (· < n) := by
  cases c <;> rfl

theorem exceeds_zero (c : Option Nat) : Http.exceeds (some 0) c = false := by
  cases c <;> simp [Http.exceeds]

theorem exceeds_mono {m n : Nat} {c : Option Nat} (hmn : m ≤ n)
    (h : Http.exceeds (some m) c = true) : Http.exceeds (some n) c = true := by
  cases c with
  | none => cases h
  | some c =>
    have hm : c < m := of_decide_eq_true h
    exact decide_eq_true (by omega)

theorem isOverCeiling_eq (m : Machine) :
    m.isOverCeiling = Http.exceeds (some m.buffered) m.policy.ceiling :=
  (exceeds_some _ _).symm

theorem Counted.received_le {h : History} {m : Machine} (hc : Counted h m) :
    m.received ≤ countCap := by
  rw [hc.received]
  exact Nat.min_le_left _ _

theorem le_addCount {m : Nat} (n : Nat) (h : m ≤ countCap) : m ≤ addCount m n := by
  unfold addCount
  omega

/-! ## the flag -/

section
variable {h : History} {m m' : Machine} {op : Op} {r : Result}

theorem overflowed_move_eq (hc : Counted h m) (hf : Flagged h m)
    (hm : m.overflowed = Http.exceeds (some m.received) m.policy.ceiling) (hmove : Move m op r m') :
    m'.overflowed = Http.exceeds (some m'.received) m'.policy.ceiling := by
  cases hmove with
  | hold c hp fits =>
    -- what is held back is all that came, so the two counts are one
    have hb : (m.holding c).received = (m.holding c).buffered := by
      have heq := hc.buffered_buffering hp
      show addCount m.received c.length = addCount m.buffered c.length
      rw [heq]
    have hfit :
        Http.exceeds (some (m.holding c).received) (m.holding c).policy.ceiling = false := by
      rw [hb, ← isOverCeiling_eq]
      exact fits
    rw [hfit]
    exact hf.within (.inl hp)
  | outgrow c hp beyond =>
    have heq := hc.buffered_buffering hp
    rw [isOverCeiling_eq] at beyond
    show true = Http.exceeds (some (addCount m.received c.length)) m.policy.ceiling
    rw [← heq]
    exact beyond.symm
  | pass c hp =>
    have ho := hf.streaming hp
    rw [ho] at hm
    have hle := le_addCount c.length hc.received_le
    have hex := exceeds_mono hle hm.symm
    show m.overflowed = Http.exceeds (some (addCount m.received c.length)) m.policy.ceiling
    rw [ho, hex]
  | begin hp fits =>
    show m.overflowed = Http.exceeds (some 0) m.policy.ceiling
    rw [fits, exceeds_zero]
  | finish hr => exact hm
  | giveUp cause aborted e ho idle why => exact hm
  | retry cause ho idle fits left => exact hm
  | fail e ho => exact hm
  | cancel ho => exact hm
  | refuse op hr => exact hm

theorem switched_move (hf : Flagged h m) (hm : switched h = m.overflowed) (hmove : Move m op r m') :
    switched (h ++ [⟨m.phase, op, r⟩]) = m'.overflowed := by
  cases hmove with
  | outgrow c hp beyond =>
    rw [switched_snoc _ _ rfl]
    exact Bool.or_true _
  | pass c hp =>
    have ho := hf.streaming hp
    rw [switched_snoc _ _ rfl, hm, ho]
    exact ho.symm
  | begin hp fits =>
    rw [switched_begin _ _ rfl]
    exact fits.symm
  | refuse op hr =>
    exact (switched_quiet _ _ (isBegin_refusal _ _) (isForward_refusal _ _)).trans hm
  | hold c hp fits => exact (switched_quiet _ _ rfl rfl).trans hm
  | finish hr => exact (switched_quiet _ _ rfl rfl).trans hm
  | giveUp cause aborted e ho idle why => exact (switched_quiet _ _ rfl rfl).trans hm
  | retry cause ho idle fits left => exact (switched_quiet _ _ rfl rfl).trans hm
  | fail e ho => exact (switched_quiet _ _ rfl rfl).trans hm
  | cancel ho => exact (switched_quiet _ _ rfl rfl).trans hm

end

section
variable (p : Policy) (ops : List Op)

theorem overflowed_eq_exceeds :
    ((new p).after ops).overflowed
      = Http.exceeds (some ((new p).after ops).received) p.ceiling := by
  have hall := after_induction (P := fun h m => Counted h m ∧ Flagged h m ∧
    m.overflowed = Http.exceeds (some m.received) m.policy.ceiling) p
    ⟨.new p, .new p, (exceeds_zero p.ceiling).symm⟩ (fun h m op r m' hp hm =>
      ⟨hp.1.move hm, hp.2.1.move hm, overflowed_move_eq hp.1 hp.2.1 hp.2.2 hm⟩) ops
  have heq := hall.2.2
  rw [after_policy] at heq
  exact heq

theorem switched_eq : switched ((new p).history ops) = ((new p).after ops).overflowed := by
  have hall := after_induction (P := fun h m => Flagged h m ∧ switched h = m.overflowed) p
    ⟨.new p, rfl⟩ (fun h m op r m' hp hm => ⟨hp.1.move hm, switched_move hp.1 hp.2 hm⟩) ops
  exact hall.2

/-- a total that fits a 64-bit word is counted as it is -/
theorem received_eq_length (h : (accepted ((new p).history ops)).flatten.length ≤ countCap) :
    ((new p).after ops).received = (accepted ((new p).history ops)).flatten.length := by
  rw [(counted_after p ops).received]
  exact Nat.min_eq_right h

theorem overflowed_eq_of_length (h : (accepted ((new p).history ops)).flatten.length ≤ countCap) :
    ((new p).after ops).overflowed
      = Http.exceeds (some (accepted ((new p).history ops)).flatten.length) p.ceiling := by
  rw [overflowed_eq_exceeds, received_eq_length p ops h]

/-! ## an attempt that is read -/

theorem reading_chunk (m : Machine) (c : Bytes) (h : m.isReading = true) :
    (m.step (.chunk c)).2.isReading = true ∧
      (⟨m.phase, .chunk c, (m.step (.chunk c)).1⟩ : Event).taken = [c] := by
  have hm := move_chunk m c h
  generalize (m.step (.chunk c)).1 = r at hm
  generalize (m.step (.chunk c)).2 = m' at hm
  cases hm with
  | hold c hp fits =>
    rw [hp]
    exact ⟨h, rfl⟩
  | outgrow c hp beyond =>
    rw [hp]
    exact ⟨rfl, rfl⟩
  | pass c hp =>
    rw [hp]
    exact ⟨h, rfl⟩
  | refuse op hr => simp [isRefused, h] at hr

theorem isBegin_chunk (m : Machine) (c : Bytes) :
    (⟨m.phase, .chunk c, (m.step (.chunk c)).1⟩ : Event).isBegin = false := rfl

/-- an attempt that is read takes in every chunk, and is still read after them -/
theorem reading_chunks (cs : List Bytes) (h : ((new p).after ops).isReading = true) :
    ((new p).after (ops ++ cs.map .chunk)).isReading = true ∧
      accepted ((new p).history (ops ++ cs.map .chunk))
        = accepted ((new p).history ops) ++ cs := by
  induction cs using List.reverseRecOn with
  | nil => simpa using h
  | append_singleton cs c ih =>
    obtain ⟨hread, hacc⟩ := ih
    have hc := reading_chunk _ c hread
    rw [List.map_append, List.map_singleton, ← List.append_assoc, after_snoc, history_snoc]
    refine ⟨hc.1, ?_⟩
    rw [accepted_snoc _ _ (isBegin_chunk _ _), hc.2, hacc, List.append_assoc]

/-- an attempt that is read has switched to streaming, or it has not -/
theorem streaming_iff_overflowed (h : ((new p).after ops).isReading = true) :
    ((new p).after ops).phase = .streaming ↔ ((new p).after ops).overflowed = true := by
  have hf := flagged_after p ops
  refine ⟨hf.streaming, fun ho => ?_⟩
  cases hp : ((new p).after ops).phase with
  | streaming => rfl
  | buffering =>
    rw [hf.within (.inl hp)] at ho
    cases ho
  | _ => simp [isReading, hp] at h

end

/-! ## the fast path -/

/-- a promised length is all that keeps a usable body out of a driver's hands -/
theorem assignment?_eq_none_iff (p : Policy) (r : Request) (c : Context) (resp : Response Feed)
    (f : Feed) (hok : resp.ok = true) (hbody : resp.body = some f) :
    Stage.assignment? p r c resp = none
      ↔ Http.exceeds (resp.expectedLength r.method) p.ceiling = true := by
  simp [Stage.assignment?, hok, hbody]

/-- **Counting bytes and reading the header agree on the ceiling.**  In every state the flag is the
comparison of the count.  An attempt that has delivered `n` bytes, in whatever chunks and whatever
became of it since, has switched to streaming just when a usable response that promises `n` bytes
is handed out without a driver. -/
theorem counted_as_declared (p : Policy) (ops : List Op) :
    ((new p).after ops).overflowed
        = Http.exceeds (some ((new p).after ops).received) p.ceiling ∧
    ∀ n ≤ countCap, ∀ (r : Request) (c : Context) (resp : Response Feed) (f : Feed),
      resp.ok = true → resp.body = some f → resp.expectedLength r.method = some n →
      (Stage.assignment? p r c resp = none ↔ Http.exceeds (some n) p.ceiling = true) ∧
      ((accepted ((new p).history ops)).flatten.length = n →
        (switched ((new p).history ops) = true ↔ Stage.assignment? p r c resp = none)) ∧
      (∀ cs, ((new p).after ops).isReading = true →
        (accepted ((new p).history ops) ++ cs).flatten.length = n →
        (((new p).after (ops ++ cs.map .chunk)).phase = .streaming
          ↔ Stage.assignment? p r c resp = none)) := by
  refine ⟨overflowed_eq_exceeds p ops, fun n hn r c resp f hok hbody hlen => ?_⟩
  have hskip := assignment?_eq_none_iff p r c resp f hok hbody
  rw [hlen] at hskip
  refine ⟨hskip, ?_, ?_⟩
  · rintro rfl
    rw [hskip, switched_eq, overflowed_eq_of_length p ops hn]
  · intro cs hread hsize
    obtain ⟨hread', hacc⟩ := reading_chunks p ops cs hread
    have hsize' : (accepted ((new p).history (ops ++ cs.map .chunk))).flatten.length = n := by
      rw [hacc, hsize]
    have hflag := overflowed_eq_of_length p (ops ++ cs.map .chunk) (by rw [hsize']; exact hn)
    rw [hskip, streaming_iff_overflowed p _ hread', hflag, hsize']

/-- a total at the ceiling is held back, one byte more is not -/
example : ((new { maxAttempts := 1, ceiling := some 2 }).after [.chunk [97], .chunk [98]]).phase
      = .buffering ∧
    ((new { maxAttempts := 1, ceiling := some 2 }).after [.chunk [97], .chunk [98, 99]]).phase
      = .streaming := ⟨rfl, rfl⟩

end Refetch

import Refetch.Proofs.Machine.Attempts
/-!
# A new attempt forgets the old ones

* `Machine.fresh`     a machine at the start of an attempt, new but for the number;
* `toldSince`         the operations told since the current attempt began;
* `fresh_of_isBegin`  an attempt that begins finds a fresh machine, whatever came before;
* `after_eq_since`    so a run is what its last attempt was told, from a fresh machine on;
* `attempt_forgets`   two runs at the start of one attempt go on alike.

A machine that waits for an attempt still counts the bytes of the one that failed, and the flag of
an overflow is never taken down: no attempt begins under it.
-/

namespace Refetch

open Machine

/-- a machine at the start of attempt `n`: new, but for the number -/
def Machine.fresh (p : Policy) (n : Nat) : Machine := { new p with attempt := n }

/-- the operations told since the current attempt began, oldest first -/
def toldSince (h : History) : List Op := (sinceBegin h).map Event.op

theorem toldSince_begin (h : History) (e : Event) (he : e.isBegin = true) :
    toldSince (h ++ [e]) = [] := by
  rw [toldSince, sinceBegin_snoc, if_pos he, List.map_nil]

theorem toldSince_snoc (h : History) (e : Event) (he : e.isBegin = false) :
    toldSince (h ++ [e]) = toldSince h ++ [e.op] := by
  have hne : ¬ e.isBegin = true := by simp [he]
  rw [toldSince, sinceBegin_snoc, if_neg hne, List.map_append, ← toldSince]
  rfl

/-! ## one attempt after the other -/

theorem renewed_eq_fresh {m : Machine} (h : m.overflowed = false) :
    m.renewed = fresh m.policy (m.attempt + 1) := by
  simp [Machine.renewed, Machine.discard, Machine.fresh, Machine.new, h]

/-- an attempt that begins finds a fresh machine -/
theorem fresh_of_isBegin {m m' : Machine} {op : Op} {r : Result} (hm : Move m op r m')
    (h : (⟨m.phase, op, r⟩ : Event).isBegin = true) : m' = fresh m.policy (m.attempt + 1) := by
  cases hm with
  | begin hp fits => exact renewed_eq_fresh fits
  | refuse op hr =>
    rw [isBegin_refusal] at h
    cases h
  | _ => cases h

/-- a run is what its last attempt was told, from a fresh machine on -/
theorem after_eq_since (p : Policy) (ops : List Op) :
    (new p).after ops
      = (fresh p (1 + begun ((new p).history ops))).after (toldSince ((new p).history ops)) := by
  induction ops using List.reverseRecOn with
  | nil => rfl
  | append_singleton ops op ih =>
    have hm := move_step ((new p).after ops) op
    have hattempt := (numbered_after p ops).attempt
    have hpolicy := after_policy p ops
    rw [history_snoc, after_snoc, begun_snoc]
    cases hb : (⟨((new p).after ops).phase, op, (((new p).after ops).step op).1⟩ : Event).isBegin with
    | true =>
      have hfresh := fresh_of_isBegin hm hb
      rw [toldSince_begin _ _ hb, after_nil, hfresh, hpolicy, hattempt, Bool.toNat_true,
        Nat.add_assoc]
    | false =>
      -- nothing begins: the operation is one more of the same attempt
      rw [toldSince_snoc _ _ hb, after_snoc, Bool.toNat_false, Nat.add_zero, ← ih]

theorem after_begin {p : Policy} {ops : List Op} (h : ((new p).after ops).beginAttempt.1 = true) :
    (new p).after (ops ++ [.begin]) = fresh p (((new p).after (ops ++ [.begin])).attempt) := by
  have hb : (⟨((new p).after ops).phase, .begin, (((new p).after ops).step .begin).1⟩ :
      Event).isBegin = true := h
  have hattempt := (numbered_after p (ops ++ [.begin])).attempt
  have hrun := after_eq_since p (ops ++ [.begin])
  rw [history_snoc, toldSince_begin _ _ hb, after_nil, ← history_snoc, ← hattempt] at hrun
  exact hrun

/-- **A new attempt forgets the old ones.**  When an attempt begins, a machine is new but for the
number of the attempt, whatever it was told before.  Two runs that have just begun the same attempt
come to the same answers and states from there on.  After every run, what is left of the run is
the number of the attempt and what was told since it began. -/
theorem attempt_forgets (p : Policy) :
    (∀ ops, ((new p).after ops).beginAttempt.1 = true →
      ((new p).after ops).beginAttempt.2
        = { new p with attempt := ((new p).after ops).beginAttempt.2.attempt }) ∧
    (∀ a b, ((new p).after a).beginAttempt.1 = true → ((new p).after b).beginAttempt.1 = true →
      ((new p).after (a ++ [.begin])).attempt = ((new p).after (b ++ [.begin])).attempt →
      ∀ more, ((new p).after (a ++ [.begin])).run more = ((new p).after (b ++ [.begin])).run more ∧
        (new p).after (a ++ [.begin] ++ more) = (new p).after (b ++ [.begin] ++ more)) ∧
    ∀ ops, (new p).after ops
      = { new p with attempt := ((new p).after ops).attempt }.after
          (toldSince ((new p).history ops)) := by
  refine ⟨fun ops h => ?_, fun a b ha hb hsame more => ?_, fun ops => ?_⟩
  · have hfresh := after_begin h
    rw [after_snoc] at hfresh
    exact hfresh
  · have hstate : (new p).after (a ++ [.begin]) = (new p).after (b ++ [.begin]) := by
      rw [after_begin ha, after_begin hb, hsame]
    refine ⟨by rw [hstate], ?_⟩
    rw [after_append (new p) (a ++ [Op.begin]) more, after_append (new p) (b ++ [Op.begin]) more,
      hstate]
  · have hrun := after_eq_since p ops
    rw [← (numbered_after p ops).attempt] at hrun
    exact hrun

/-- a retry of three bytes that were held back, with a stray failure and a stray chunk after it,
goes on like a retry of nothing -/
theorem attempt_forgets_strays :
    let p : Policy := { maxAttempts := 3, ceiling := some 4 }
    let reset : Op := .failure (.stated "reset") false
    let a : List Op := [.chunk [97, 98, 99], reset, .failure (.stated "late") true, .chunk [100]]
    let b : List Op := [reset]
    let more : List Op := [.chunk [101], .finish]
    ((new p).after a).beginAttempt.1 = true ∧ ((new p).after b).beginAttempt.1 = true ∧
      ((new p).after (a ++ [.begin])).attempt = ((new p).after (b ++ [.begin])).attempt ∧
      ((new p).after a).beginAttempt.2
        = { new p with attempt := ((new p).after a).beginAttempt.2.attempt } ∧
      ((new p).after (a ++ [.begin])).run more = ((new p).after (b ++ [.begin])).run more :=
  ⟨rfl, rfl, rfl, (attempt_forgets _).1 _ rfl, ((attempt_forgets _).2.1 _ _ rfl rfl rfl _).1⟩

end Refetch

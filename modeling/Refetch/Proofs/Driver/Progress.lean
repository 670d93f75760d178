import Refetch.Proofs.Driver.Lockstep
/-!
# A fair schedule comes to its end

When nobody closes the output and everybody else moves again and again, the consumer comes to the
end of the output:

* `Fair`       such a schedule, and `roundRobin` one of them;
* `StopsIn`    so many steps of its session take the driver to its end;
* `rank`       what is left to do: the driver's steps, the items that wait for the consumer, and
               the turns in which the driver polls a collaborator or ends the output;
* `turned_or_nearer`   a turn changes nothing, or it lowers the rank;
* `exists_nearer`      some turn lowers it until the consumer is at the end;
* `Fair.finishes`   so every fair schedule gets there.
-/

namespace Refetch

open Session Driver Duet

/-- nobody closes the output, and everybody else moves again and again -/
structure Fair (ts : Stream' Turn) : Prop where
  never : ∀ n, ts.get n ≠ .close
  again : ∀ t, t ≠ .close → ∀ n, ∃ m, n ≤ m ∧ ts.get m = t

theorem Fair.tail {ts : Stream' Turn} (h : Fair ts) : Fair ts.tail where
  never n := h.never (n + 1)
  again t ht n := by
    obtain ⟨m, hle, hm⟩ := h.again t ht (n + 1)
    obtain ⟨k, rfl⟩ : ∃ k, m = k + 1 := ⟨m - 1, by omega⟩
    exact ⟨k, Nat.le_of_succ_le_succ hle, hm⟩

/-- who moves when everybody but the close moves in turn -/
def turnAt (n : Nat) : Turn :=
  match n % 3 with
  | 0 => .poll
  | 1 => .answer
  | _ => .take

/-- the schedule in which they do -/
def roundRobin : Stream' Turn := turnAt

theorem turnAt_add (n k : Nat) : turnAt (3 * n + k) = turnAt k := by
  have hmod : (3 * n + k) % 3 = k % 3 := by omega
  rw [turnAt, hmod, ← turnAt]

theorem fair_roundRobin : Fair roundRobin where
  never n := by
    show turnAt n ≠ .close
    unfold turnAt
    split <;> decide
  again t ht n := by
    cases t with
    | poll => exact ⟨3 * n + 0, by omega, turnAt_add n 0⟩
    | answer => exact ⟨3 * n + 1, by omega, turnAt_add n 1⟩
    | take => exact ⟨3 * n + 2, by omega, turnAt_add n 2⟩
    | close => exact absurd rfl ht

/-- nobody has closed the output, and a driver that waits has somebody to wait for -/
structure Unclosed (d : Duet) : Prop where
  opened : d.output.closed = false
  waits : d.waiting = true → (d.driver.ask false).isPolled = true

/-- `n` steps of its session take the driver to its end -/
def StopsIn (n : Nat) (d : Duet) : Prop :=
  ∃ notes, (Session.step^[n] (d.session notes)).driver.point = .stopped

/-- what is left to do, for a driver that stops in `n` steps.  A step may put an item into the queue
and calls for a new poll, so it weighs more than these two together. -/
def rank (n : Nat) (d : Duet) : Nat :=
  3 * n + (!d.waiting).toNat + d.output.queue.length + (!d.output.ended).toNat

/-- `d'` has less to do than `d` -/
def Nearer (n : Nat) (d d' : Duet) : Prop := ∃ n', StopsIn n' d' ∧ rank n' d' < rank n d

section
variable {n : Nat} {d d' : Duet} {t : Turn} {seen : List Mark} {dr : Driver Source}
  {w : Surroundings} {o : Output} {a : Answer Source}

/-! ## one turn -/

theorem Unclosed.turned (h : Unclosed d) (ht : Turned d t seen d') (hne : t ≠ .close) :
    Unclosed d' := by
  cases ht with
  | tells ht => exact ⟨ht.ends_eq.1.trans h.opened, fun hw => by cases hw⟩
  | polled a hask hp =>
    rw [h.opened] at hask
    exact ⟨h.opened, fun _ => by rw [hask]; exact hp⟩
  | ended hask => exact ⟨h.opened, h.waits⟩
  | full i hask hopen hfull => exact h
  | idle hidle => exact h
  | took => exact ⟨(next_ends_eq d.output).1.trans h.opened, h.waits⟩
  | closed => exact absurd rfl hne

/-- a driver that is told something is one step nearer to its end -/
theorem StopsIn.told (hn : StopsIn n d) (h : Unclosed d) (ht : Tells d t seen dr w o a) :
    ∃ n', n = n' + 1 ∧ StopsIn n' (d.tell dr w o a).2 := by
  obtain ⟨notes, hstop⟩ := hn
  cases n with
  | zero => exact absurd hstop ht.going
  | succ n =>
    obtain ⟨more, hstep, -⟩ := step_of_tells h.opened ht notes
    rw [Function.iterate_succ_apply, hstep] at hstop
    exact ⟨n, rfl, notes ++ more, hstop⟩

theorem Tells.queue_length_le (ht : Tells d t seen dr w o a) :
    o.queue.length ≤ d.output.queue.length + 1 := by
  cases ht with
  | sent i h ho room => exact (List.length_append).le
  | _ => exact Nat.le_succ _

theorem nearer_told (hn : StopsIn n d) (h : Unclosed d) (ht : Tells d t seen dr w o a) :
    Nearer n d (d.tell dr w o a).2 := by
  obtain ⟨n', rfl, hn'⟩ := hn.told h ht
  refine ⟨n', hn', ?_⟩
  have hqueue := ht.queue_length_le
  have hended : (d.tell dr w o a).2.output.ended = d.output.ended := ht.ends_eq.2
  have hwaiting : (d.tell dr w o a).2.waiting = false := rfl
  have hqueue' : (d.tell dr w o a).2.output.queue = o.queue := rfl
  rw [rank, rank, hended, hwaiting, hqueue']
  simp only [Bool.not_false, Bool.toNat_true]
  omega

theorem nearer_polled (hn : StopsIn n d) (hw : d.waiting = false) :
    Nearer n d { d with waiting := true } := by
  refine ⟨n, hn, ?_⟩
  rw [rank, rank, hw]
  simp only [Bool.not_false, Bool.not_true, Bool.toNat_true, Bool.toNat_false]
  omega

theorem nearer_ended (hn : StopsIn n d) (he : d.output.ended = false) :
    Nearer n d { d with output := d.output.finish } := by
  refine ⟨n, hn, ?_⟩
  rw [rank, rank, Output.finish, he]
  simp only [Bool.not_false, Bool.not_true, Bool.toNat_true, Bool.toNat_false]
  omega

theorem nearer_took (hn : StopsIn n d) (h : Unclosed d) {i : Item} {rest : List Item}
    (hq : d.output.queue = i :: rest) : Nearer n d { d with output := d.output.next.2 } := by
  have hnext : d.output.next = (.item i, { d.output with queue := rest }) := by
    rw [Output.next, if_neg (by rw [h.opened]; exact Bool.false_ne_true), hq]
  refine ⟨n, hn, ?_⟩
  rw [hnext, rank, rank, hq, List.length_cons]
  simp only
  omega

/-- a turn changes nothing, or it lowers the rank -/
theorem turned_or_nearer (hn : StopsIn n d) (h : Unclosed d) (ht : Turned d t seen d')
    (hne : t ≠ .close) : d' = d ∨ Nearer n d d' := by
  cases ht with
  | tells ht => exact .inr (nearer_told hn h ht)
  | polled a hask hp =>
    cases hw : d.waiting with
    | true => exact .inl (by rw [← hw])
    | false => exact .inr (nearer_polled hn hw)
  | ended hask =>
    cases he : d.output.ended with
    | true => exact .inl (by rw [Output.finish, ← he])
    | false => exact .inr (nearer_ended hn he)
  | full i hask hopen hfull => exact .inl rfl
  | idle hidle => exact .inl rfl
  | took =>
    cases hq : d.output.queue with
    | nil =>
      have hnext : d.output.next.2 = d.output := by
        rw [Output.next, h.opened, hq]
        rfl
      exact .inl (by rw [hnext])
    | cons i rest => exact .inr (nearer_took hn h hq)
  | closed => exact absurd rfl hne

/-- until the consumer is at the end of the output, some turn lowers the rank -/
theorem exists_nearer (hn : StopsIn n d) (h : Unclosed d) (hnext : d.output.next.1 ≠ .finish) :
    ∃ t, t ≠ .close ∧ Nearer n d (d.turn t).2 := by
  cases hq : d.output.queue with
  | cons i rest => exact ⟨.take, by decide, nearer_took hn h hq⟩
  | nil =>
    have hended : d.output.ended = false := by
      refine Bool.eq_false_iff.mpr fun he => hnext ?_
      rw [Output.next, h.opened, hq, he]
      rfl
    cases hw : d.waiting with
    | false =>
      refine ⟨.poll, by decide, ?_⟩
      have ht : Turned d .poll (d.turn .poll).1 (d.turn .poll).2 := turned_turn d .poll
      generalize (d.turn .poll).1 = seen at ht
      generalize (d.turn .poll).2 = d' at ht ⊢
      cases ht with
      | tells ht => exact nearer_told hn h ht
      | polled a hask hp => exact nearer_polled hn hw
      | ended hask => exact nearer_ended hn hended
      | full i hask hopen hfull =>
        rw [Output.hasRoom, hq] at hfull
        exact absurd hfull (by decide)
    | true =>
      refine ⟨.answer, by decide, ?_⟩
      have ht : Turned d .answer (d.turn .answer).1 (d.turn .answer).2 := turned_turn d .answer
      generalize (d.turn .answer).1 = seen at ht
      generalize (d.turn .answer).2 = d' at ht ⊢
      cases ht with
      | tells ht => exact nearer_told hn h ht
      | idle hidle =>
        have hidle := hidle hw
        rw [h.waits hw] at hidle
        cases hidle

end

/-! ## a whole schedule -/

/-- the consumer comes to the end of the output -/
def Finishes (ts : Stream' Turn) (d : Duet) : Prop :=
  ∃ k, (d.after (ts.take k)).output.next.1 = .finish

theorem Finishes.of_tail {d : Duet} {ts : Stream' Turn}
    (h : Finishes ts.tail (d.turn ts.head).2) : Finishes ts d := by
  obtain ⟨k, hk⟩ := h
  exact ⟨k + 1, hk⟩

/-- under a fair schedule the consumer comes to the end of the output -/
theorem Fair.finishes {n : Nat} {d : Duet} {ts : Stream' Turn} (hf : Fair ts) (h : Unclosed d)
    (hn : StopsIn n d) : Finishes ts d := by
  induction hr : rank n d using Nat.strong_induction_on generalizing n d ts with
  | _ r ih =>
    by_cases hnext : d.output.next.1 = .finish
    · exact ⟨0, hnext⟩
    · obtain ⟨t, hne, hnearer⟩ := exists_nearer hn h hnext
      obtain ⟨m, -, hm⟩ := hf.again t hne 0
      -- the turn that lowers the rank comes after `m` others; one of them may lower it before
      induction m generalizing ts with
      | zero =>
        obtain ⟨n', hn', hlt⟩ := hnearer
        subst hr hm
        exact .of_tail (ih _ hlt hf.tail (h.turned (turned_turn d _) hne) hn' rfl)
      | succ m ihm =>
        have hhead : ts.head ≠ .close := hf.never 0
        refine Finishes.of_tail ?_
        rcases turned_or_nearer hn h (turned_turn d ts.head) hhead with hsame | ⟨n', hn', hlt⟩
        · rw [hsame]
          exact ihm hf.tail hm
        · subst hr
          exact ih _ hlt hf.tail (h.turned (turned_turn d _) hhead) hn' rfl

end Refetch

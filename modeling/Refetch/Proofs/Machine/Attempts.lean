import Refetch.Proofs.Machine.Accounting
/-!
# The attempts of a run

Over a whole run, told in any order:

* `begun`             the attempts that began after the first;
* `calledFor`         the attempts that were called for, by number;
* `Numbered`          the attempt, the calls and the budget, against the history;
* `begun_between`     between two calls that follow each other one attempt began;
* `AttemptsCounted`   all of it, for a run;
* `attempts_counted`  every run of a new machine counts its attempts.

A call and the attempt that answers it alternate, so the guard of a pending retry is the difference
between the two counts.
-/

namespace Refetch

open Machine

/-- the attempt that was called for -/
def Event.next? (e : Event) : Option Nat :=
  match e.result with
  | .directive (.retry n _) => some n
  | _ => none

def begun (h : History) : Nat := h.countP Event.isBegin

def calledFor (h : History) : List Nat := h.filterMap Event.next?

theorem isSome_next? (e : Event) : e.next?.isSome = e.isRetry := by
  obtain ⟨ph, op, r⟩ := e
  rcases r with d | b | e | _
  · cases d <;> rfl
  · rfl
  · rfl
  · rfl

theorem length_calledFor (h : History) : (calledFor h).length = h.countP Event.isRetry := by
  rw [calledFor, List.length_filterMap_eq_countP]
  simp only [isSome_next?]

theorem begun_append (a b : History) : begun (a ++ b) = begun a + begun b := List.countP_append

theorem begun_snoc (h : History) (e : Event) : begun (h ++ [e]) = begun h + e.isBegin.toNat := by
  rw [begun_append]
  cases he : e.isBegin <;> simp [begun, he]

theorem calledFor_quiet (h : History) (e : Event) (he : e.isRetry = false) :
    calledFor (h ++ [e]) = calledFor h := by
  have hn : e.next? = none := by rw [← Option.not_isSome_iff_eq_none, isSome_next?, he]; simp
  rw [calledFor, List.filterMap_append, List.filterMap_cons_none hn, List.filterMap_nil,
    List.append_nil, ← calledFor]

/-! ## numbers -/

/-- the attempt of a machine, the calls for the next one and its budget, against its history -/
structure Numbered (h : History) (m : Machine) : Prop where
  attempt : m.attempt = 1 + begun h
  called : calledFor h = List.range' 2 (begun h + m.retryPending.toNat)
  budget : begun h + m.retryPending.toNat + 1 ≤ max 1 m.policy.maxAttempts

namespace Numbered

variable {h : History} {m : Machine}

theorem new (p : Policy) : Numbered [] (.new p) := ⟨rfl, rfl, Nat.le_max_left 1 p.maxAttempts⟩

/-- there are as many calls as attempts that answered one, and one more if it is pending -/
theorem count_calls (hn : Numbered h m) :
    h.countP Event.isRetry = begun h + m.retryPending.toNat := by
  rw [← length_calledFor, hn.called, List.length_range']

/-- a move that neither begins an attempt nor calls for one -/
theorem quiet (hn : Numbered h m) (e : Event) (m' : Machine) (hb : e.isBegin = false)
    (hr : e.isRetry = false) (ha : m'.attempt = m.attempt) (hq : m'.retryPending = m.retryPending)
    (hp : m'.policy = m.policy) : Numbered (h ++ [e]) m' := by
  have hbegun : begun (h ++ [e]) = begun h := by rw [begun_snoc, hb]; rfl
  refine ⟨?_, ?_, ?_⟩
  · rw [ha, hbegun, hn.attempt]
  · rw [calledFor_quiet h e hr, hbegun, hq, hn.called]
  · rw [hbegun, hq, hp]
    exact hn.budget

theorem move {op : Op} {r : Result} {m' : Machine} (hf : Flagged h m) (hn : Numbered h m)
    (hm : Move m op r m') : Numbered (h ++ [⟨m.phase, op, r⟩]) m' := by
  cases hm with
  | hold c hp fits => exact hn.quiet _ _ rfl rfl rfl rfl rfl
  | outgrow c hp beyond => exact hn.quiet _ _ rfl rfl rfl rfl rfl
  | pass c hp => exact hn.quiet _ _ rfl rfl rfl rfl rfl
  | finish hr => exact hn.quiet _ _ rfl rfl rfl rfl rfl
  | giveUp cause aborted e ho idle why => exact hn.quiet _ _ rfl rfl rfl rfl rfl
  | retry cause ho idle fits left =>
    have hcalled := hn.called
    have hattempt := hn.attempt
    rw [idle, Bool.toNat_false, Nat.add_zero] at hcalled
    refine ⟨?_, ?_, ?_⟩
    · rw [begun_snoc]
      exact hattempt
    · rw [begun_snoc, calledFor, List.filterMap_append, ← calledFor, hcalled]
      show List.range' 2 (begun h) ++ [m.attempt + 1] = List.range' 2 (begun h + 1)
      rw [List.range'_1_concat, hattempt]
      congr 2
      omega
    · rw [begun_snoc]
      show begun h + 1 + 1 ≤ max 1 m.policy.maxAttempts
      omega
  | begin hp fits =>
    -- the guard comes down, and the count of the attempts goes up
    have hpending := hf.pending_of_retrying hp
    have hcalled := hn.called
    have hbudget := hn.budget
    rw [hpending] at hcalled hbudget
    refine ⟨?_, ?_, ?_⟩
    · rw [begun_snoc]
      show m.attempt + 1 = 1 + (begun h + 1)
      rw [hn.attempt]
      omega
    · rw [begun_snoc, calledFor_quiet _ _ rfl]
      exact hcalled
    · rw [begun_snoc]
      exact hbudget
  | fail e ho => exact hn.quiet _ _ rfl rfl rfl rfl rfl
  | cancel ho => exact hn.quiet _ _ rfl rfl rfl rfl rfl
  | refuse op hr => exact hn.quiet _ _ (isBegin_refusal _ _) (isRetry_refusal _ _) rfl rfl rfl

end Numbered

theorem numbered_after (p : Policy) (ops : List Op) :
    Numbered ((new p).history ops) ((new p).after ops) := by
  have hall := after_induction (P := fun h m => Flagged h m ∧ Numbered h m) p ⟨.new p, .new p⟩
    (fun h m op r m' hp hm => ⟨hp.1.move hm, hp.2.move hp.1 hm⟩) ops
  exact hall.2

/-! ## between two calls -/

theorem isBegin_of_isRetry {e : Event} (h : e.isRetry = true) : e.isBegin = false := by
  unfold Event.isRetry Event.isBegin at *
  split at h
  · simp_all
  · cases h

/-- a machine that has just called for an attempt has the call pending -/
theorem pending_of_isRetry {h : History} {m : Machine} (hf : Flagged h m) {hs : History} {e : Event}
    (he : h = hs ++ [e]) (hr : e.isRetry = true) : m.retryPending = true := by
  rw [hf.called, he, retryCalled_snoc _ _ (isBegin_of_isRetry hr), hr, Bool.or_true]

/-- the attempts begun and the calls made up to a call: the call is one ahead -/
theorem begun_at_call (p : Policy) (ops : List Op) (xs ys : History) (x : Event)
    (h : (new p).history ops = xs ++ x :: ys) (hx : x.isRetry = true) :
    xs.countP Event.isRetry = begun xs := by
  rw [List.append_cons] at h
  obtain ⟨a, b, rfl, ha, -⟩ := history_split _ _ _ _ h
  have hp := pending_of_isRetry (flagged_after p a) ha hx
  have hc := (numbered_after p a).count_calls
  rw [ha, hp, List.countP_append, List.countP_singleton, if_pos hx, begun_snoc,
    isBegin_of_isRetry hx, Bool.toNat_true, Bool.toNat_false] at hc
  omega

/-- between two calls that follow each other one attempt began -/
theorem begun_between (p : Policy) (ops : List Op) (xs mid ys : History) (x y : Event)
    (h : (new p).history ops = xs ++ x :: (mid ++ y :: ys)) (hx : x.isRetry = true)
    (hy : y.isRetry = true) (hmid : ∀ e ∈ mid, e.isRetry = false) : begun mid = 1 := by
  have hfirst := begun_at_call p ops xs (mid ++ y :: ys) x h hx
  have hsecond := begun_at_call p ops (xs ++ x :: mid) ys y (by rw [h]; simp) hy
  have hnone : mid.countP Event.isRetry = 0 :=
    List.countP_eq_zero.mpr fun e he => by rw [hmid e he]; exact Bool.false_ne_true
  have hbegun : begun (x :: mid) = begun mid :=
    List.countP_cons_of_neg (by rw [isBegin_of_isRetry hx]; exact Bool.false_ne_true)
  rw [List.countP_append, List.countP_cons_of_pos hx, hnone, begun_append, hbegun] at hsecond
  omega

/-- a stretch in which no attempt begins makes one call at most -/
theorem calls_of_stretch (p : Policy) (ops : List Op) (xs mid ys : History)
    (h : (new p).history ops = xs ++ mid ++ ys) (hmid : ∀ e ∈ mid, e.isBegin = false) :
    mid.countP Event.isRetry ≤ 1 := by
  obtain ⟨a, b, rfl, ha, -⟩ := history_split _ _ _ _ h
  obtain ⟨a, b', rfl, ha', hb⟩ := history_split _ _ _ _ ha
  have hbefore := (numbered_after p a).count_calls
  have hafter := (numbered_after p (a ++ b')).count_calls
  have hnone : begun mid = 0 :=
    List.countP_eq_zero.mpr fun e he => by rw [hmid e he]; exact Bool.false_ne_true
  rw [ha'] at hbefore
  rw [ha, List.countP_append, begun_append, hnone] at hafter
  have hle := Bool.toNat_le ((new p).after (a ++ b')).retryPending
  omega

/-! ## failures that call for no attempt -/

/-- what a failure calls for, and the state in which it does -/
theorem onFailure_retry_cases {m : Machine} {cause c : Cause} {aborted : Bool} {n : Nat}
    (h : (m.onFailure cause aborted).1 = .retry n c) :
    aborted = false ∧ m.overflowed = false ∧ c = cause ∧ n = m.attempt + 1 ∧
      m.attempt < m.policy.maxAttempts := by
  have hm := move_step m (.failure cause aborted)
  have hr : (m.step (.failure cause aborted)).1 = .directive (.retry n c) := congrArg _ h
  rw [hr] at hm
  generalize (m.step (.failure cause aborted)).2 = m' at hm
  cases hm with
  | retry cause ho idle fits left => exact ⟨rfl, fits, rfl, rfl, left⟩

theorem onFailure_exhausted_cases {m : Machine} {cause c : Cause} {aborted : Bool} {n : Nat}
    (h : (m.onFailure cause aborted).1 = .fail (.exhausted n c)) :
    c = cause ∧ n = m.attempt ∧ m.policy.maxAttempts ≤ m.attempt := by
  have hm := move_step m (.failure cause aborted)
  have hr : (m.step (.failure cause aborted)).1 = .directive (.fail (.exhausted n c)) :=
    congrArg _ h
  rw [hr] at hm
  generalize (m.step (.failure cause aborted)).2 = m' at hm
  cases hm with
  | giveUp cause aborted e ho idle why =>
    cases why with
    | exhausted fits spent => exact ⟨rfl, rfl, spent⟩

/-- a machine past its ceiling stays past it and calls for no attempt -/
theorem overflowed_move {m : Machine} {op : Op} {r : Result} {m' : Machine}
    (ho : m.overflowed = true) (hm : Move m op r m') :
    m'.overflowed = true ∧ (⟨m.phase, op, r⟩ : Event).isRetry = false := by
  cases hm with
  | retry cause h idle fits left => rw [ho] at fits; cases fits
  | begin h fits => rw [ho] at fits; cases fits
  | outgrow c h beyond => exact ⟨rfl, rfl⟩
  | refuse op h => exact ⟨ho, isRetry_refusal _ _⟩
  | _ => exact ⟨ho, rfl⟩

theorem no_call_past_ceiling (m : Machine) (ho : m.overflowed = true) (ops : List Op) :
    ∀ e ∈ m.history ops, e.isRetry = false := by
  induction ops generalizing m with
  | nil => exact fun e he => absurd he List.not_mem_nil
  | cons op ops ih =>
    obtain ⟨ho', hr⟩ := overflowed_move ho (move_step m op)
    intro e he
    rw [history_cons] at he
    rcases List.mem_cons.mp he with rfl | he
    · exact hr
    · exact ih _ ho' e he

/-! ## the whole of it -/

/-- the attempts of a run with the policy `p`, against the history of the run -/
structure AttemptsCounted (p : Policy) (h : History) (m : Machine) : Prop where
  /-- the attempt under way is counted from one -/
  attempt : m.attempt = 1 + begun h
  /-- an attempt begins just when one is waited for -/
  begins : m.beginAttempt.1 = true ↔ m.phase = .retrying
  /-- the calls are for the second attempt, the third and so on, each once -/
  calls : calledFor h = List.range' 2 (h.countP Event.isRetry)
  /-- between two calls that follow each other one attempt began -/
  between : ∀ xs x mid y ys, h = xs ++ x :: (mid ++ y :: ys) → x.isRetry = true →
    y.isRetry = true → (∀ e ∈ mid, e.isRetry = false) → begun mid = 1
  /-- whatever is told in one attempt, it makes one call at most -/
  once : ∀ xs mid ys, h = xs ++ mid ++ ys → (∀ e ∈ mid, e.isBegin = false) →
    mid.countP Event.isRetry ≤ 1
  calls_le : h.countP Event.isRetry ≤ max 1 p.maxAttempts - 1
  /-- the budget is spent in the last attempt that it allows, by the failure that is told then -/
  exhausted : ∀ cause aborted n c, (m.onFailure cause aborted).1 = .fail (.exhausted n c) →
    n = max 1 p.maxAttempts ∧ 1 + begun h = n ∧ c = cause
  /-- an abort signal rules out a call -/
  aborted : ∀ cause n c, (m.onFailure cause true).1 ≠ .retry n c
  /-- past the ceiling no call is made, then or later -/
  overflowed : m.overflowed = true → ∀ ops, ∀ e ∈ m.history ops, e.isRetry = false
  /-- where the next attempt is called for or begins, its number is within the budget -/
  next_le : m.beginAttempt.1 = true ∨
      (∃ cause aborted n c, (m.onFailure cause aborted).1 = .retry n c) →
    m.attempt + 1 ≤ p.maxAttempts
  /-- so a budget that fits a word never makes that number outgrow the word -/
  next_fits : p.maxAttempts ≤ attemptCap → m.beginAttempt.1 = true ∨
      (∃ cause aborted n c, (m.onFailure cause aborted).1 = .retry n c) →
    m.attempt + 1 ≤ attemptCap

theorem beginAttempt_granted_iff {h : History} {m : Machine} (hf : Flagged h m) :
    m.beginAttempt.1 = true ↔ m.phase = .retrying := by
  have hm := move_step m .begin
  constructor
  · intro hb
    have hr : (m.step .begin).1 = .began true := congrArg _ hb
    rw [hr] at hm
    generalize (m.step .begin).2 = m' at hm
    cases hm with
    | begin hp fits => exact hp
  · intro hp
    have hopen : ¬ (m.phase != .retrying || m.overflowed) = true := by
      rw [hp, hf.within (.inr hp)]
      simp
    rw [beginAttempt, if_neg hopen]

/-- the number of the next attempt is within the budget wherever it is worked out -/
theorem next_attempt_le {h : History} {m : Machine} (hf : Flagged h m) (hn : Numbered h m)
    (hw : m.beginAttempt.1 = true ∨
      ∃ cause aborted n c, (m.onFailure cause aborted).1 = .retry n c) :
    m.attempt + 1 ≤ m.policy.maxAttempts := by
  rcases hw with hb | ⟨cause, aborted, n, c, hr⟩
  · -- the call that the attempt answers was within the budget
    have hpending := hf.pending_of_retrying ((beginAttempt_granted_iff hf).mp hb)
    have hbudget := hn.budget
    rw [hpending, Bool.toNat_true] at hbudget
    rw [hn.attempt]
    omega
  · obtain ⟨-, -, -, -, left⟩ := onFailure_retry_cases hr
    exact left

/-- **Every run of a new machine counts its attempts**, within the budget of its policy; under the
policy of a configuration there are at most as many as its budget and one. -/
theorem attempts_counted (p : Policy) (ops : List Op) :
    AttemptsCounted p ((new p).history ops) ((new p).after ops) ∧
    ∀ config, p = .ofConfig config →
      1 + begun ((new p).history ops) ≤ min (config.budget.toNat + 1) attemptCap ∧
      ((new p).history ops).countP Event.isRetry ≤ min config.budget.toNat (attemptCap - 1) := by
  have hf := flagged_after p ops
  have hn := numbered_after p ops
  have hp := after_policy p ops
  have hle := hn.budget
  rw [hp] at hle
  refine ⟨⟨hn.attempt, beginAttempt_granted_iff hf, ?_, ?_, ?_, ?_, ?_, ?_, ?_, ?_, ?_⟩, ?_⟩
  · rw [hn.count_calls, hn.called]
  · intro xs x mid y ys h hx hy hmid
    exact begun_between p ops xs mid ys x y h hx hy hmid
  · intro xs mid ys h hmid
    exact calls_of_stretch p ops xs mid ys h hmid
  · rw [hn.count_calls]
    omega
  · intro cause aborted n c h
    obtain ⟨hc, hnum, spent⟩ := onFailure_exhausted_cases h
    rw [hp] at spent
    have hattempt := hn.attempt
    refine ⟨?_, ?_, hc⟩ <;> omega
  · intro cause n c h
    cases (onFailure_retry_cases h).1
  · exact fun ho more => no_call_past_ceiling _ ho more
  · intro hw
    have h := next_attempt_le hf hn hw
    rwa [hp] at h
  · intro hcap hw
    have h := next_attempt_le hf hn hw
    rw [hp] at h
    exact h.trans hcap
  · rintro config rfl
    have hmax : (Policy.ofConfig config).maxAttempts = min attemptCap (config.budget.toNat + 1) := rfl
    have hcap : attemptCap = 4294967295 := rfl
    rw [hmax] at hle
    rw [hn.count_calls]
    omega

/-- a second failure in one attempt calls for nothing, so two calls need an attempt between them -/
example : calledFor ((new { maxAttempts := 3 }).history
    [.failure (.stated "reset") false, .failure (.stated "reset") false, .begin, .chunk [97],
      .failure (.stated "reset") false, .finish])
    = [2, 3] := rfl

end Refetch

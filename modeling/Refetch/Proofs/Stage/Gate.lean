import Refetch.Scenario.Step
import Refetch.Proofs.Machine.Attempts
import Refetch.Proofs.Machine.Ceiling
import Refetch.Proofs.Stage.Entry
/-!
# The gate

Which requests a stage accepts, and what it then allows:

* `Request.IsSafe`         the method may be repeated, and so may the payload;
* `Gate.Fails`             a check fails, with what it reports;
* `check_eq_ok_iff`, `check_eq_error_iff`   the verdict is the first check that fails, or the policy;
* `retried_at_first`       a machine with two attempts or more calls for the second one at the
                           first failure;
* `gate_decides`           all of it, with what the verdict does not depend on.
-/

namespace Refetch

open Machine

/-- the names of the methods that may be repeated, byte for byte -/
def safeMethods : List String := ["GET", "HEAD", "PUT", "DELETE", "OPTIONS", "TRACE"]

def Request.HasStream (r : Request) : Prop := ∃ cell, r.payload = .stream cell

def Request.IsSafe (r : Request) : Prop := r.method.name ∈ safeMethods ∧ ¬ r.HasStream

/-- the place of a check in the order of the checks -/
def Rejection.rank : Rejection → Nat
  | .budgetNotPositive => 0
  | .methodNotIdempotent => 1
  | .payloadNotReplayable => 2

namespace Gate

/-- a check fails, with what it reports -/
inductive Fails (r : Request) (c : Config) : Rejection → Prop where
  | budget (h : c.budget = 0) : Fails r c .budgetNotPositive
  | method (off : c.allowUnsafe = false) (h : r.method.name ∉ safeMethods) :
      Fails r c .methodNotIdempotent
  | payload (off : c.allowUnsafe = false) (h : r.HasStream) : Fails r c .payloadNotReplayable

/-- the check that fails before all others that fail -/
def FailsFirst (r : Request) (c : Config) (e : Rejection) : Prop :=
  Fails r c e ∧ ∀ e', Fails r c e' → e.rank ≤ e'.rank

end Gate

open Gate

theorem idempotent_iff (m : Http.Method) : m.idempotent = true ↔ m.name ∈ safeMethods := by
  obtain ⟨name⟩ := m
  simp [Http.Method.idempotent, Http.Method.idempotents, safeMethods, Http.Method.get,
    Http.Method.head, Http.Method.put, Http.Method.delete, Http.Method.options, Http.Method.trace]

theorem isReplayable_iff (r : Request) : r.payload.isReplayable = true ↔ ¬ r.HasStream := by
  unfold Request.HasStream
  cases r.payload <;> simp [Payload.isReplayable]

section
variable {r : Request} {c : Config}

theorem fails_budget_iff : (c.budget == 0) = true ↔ Fails r c .budgetNotPositive := by
  rw [beq_iff_eq]
  exact ⟨.budget, fun h => by cases h; assumption⟩

theorem fails_method_iff :
    (!r.method.idempotent && !c.allowUnsafe) = true ↔ Fails r c .methodNotIdempotent := by
  rw [Bool.and_eq_true, Bool.not_eq_true', Bool.not_eq_true', ← Bool.not_eq_true, idempotent_iff]
  exact ⟨fun h => .method h.2 h.1, fun h => by cases h; constructor <;> assumption⟩

theorem fails_payload_iff :
    (!r.payload.isReplayable && !c.allowUnsafe) = true ↔ Fails r c .payloadNotReplayable := by
  rw [Bool.and_eq_true, Bool.not_eq_true', Bool.not_eq_true', ← Bool.not_eq_true, isReplayable_iff,
    not_not]
  exact ⟨fun h => .payload h.2 h.1, fun h => by cases h; constructor <;> assumption⟩

theorem check_cases (r : Request) (c : Config) :
    (∃ e, Gate.check r c = .error e ∧ FailsFirst r c e) ∨
      (Gate.check r c = .ok (Policy.ofConfig c) ∧ ∀ e, ¬ Fails r c e) := by
  unfold Gate.check
  split_ifs with hb hm hp
  · refine .inl ⟨_, rfl, fails_budget_iff.mp hb, fun e' _ => Nat.zero_le _⟩
  · refine .inl ⟨_, rfl, fails_method_iff.mp hm, fun e' he' => ?_⟩
    cases e' with
    | budgetNotPositive => exact absurd (fails_budget_iff.mpr he') hb
    | methodNotIdempotent => exact Nat.le_refl _
    | payloadNotReplayable => exact Nat.le_succ _
  · refine .inl ⟨_, rfl, fails_payload_iff.mp hp, fun e' he' => ?_⟩
    cases e' with
    | budgetNotPositive => exact absurd (fails_budget_iff.mpr he') hb
    | methodNotIdempotent => exact absurd (fails_method_iff.mpr he') hm
    | payloadNotReplayable => exact Nat.le_refl _
  · refine .inr ⟨rfl, fun e he => ?_⟩
    cases e with
    | budgetNotPositive => exact hb (fails_budget_iff.mpr he)
    | methodNotIdempotent => exact hm (fails_method_iff.mpr he)
    | payloadNotReplayable => exact hp (fails_payload_iff.mpr he)

theorem rank_injective {e e' : Rejection} (h : e.rank = e'.rank) : e = e' := by
  cases e <;> cases e' <;> first | rfl | cases h

theorem check_eq_error_iff (r : Request) (c : Config) (e : Rejection) :
    Gate.check r c = .error e ↔ FailsFirst r c e := by
  rcases check_cases r c with ⟨e', hcheck, hfirst⟩ | ⟨hcheck, hnone⟩
  · rw [hcheck]
    constructor
    · rintro ⟨rfl⟩
      exact hfirst
    · intro h
      have hle := h.2 e' hfirst.1
      have hge := hfirst.2 e h.1
      rw [rank_injective (Nat.le_antisymm hge hle)]
  · rw [hcheck]
    exact ⟨fun h => (by cases h), fun h => absurd h.1 (hnone e)⟩

theorem not_fails_iff : (∀ e, ¬ Fails r c e) ↔ 0 < c.budget ∧ (c.allowUnsafe = true ∨ r.IsSafe) := by
  constructor
  · intro h
    have hb : c.budget ≠ 0 := fun h0 => h _ (.budget h0)
    refine ⟨UInt32.pos_iff_ne_zero.mpr hb, ?_⟩
    cases hs : c.allowUnsafe with
    | true => exact .inl rfl
    | false =>
      refine .inr ⟨?_, fun hstream => h _ (.payload hs hstream)⟩
      by_contra hm
      exact h _ (.method hs hm)
  · rintro ⟨hb, h⟩ e he
    cases he with
    | budget h0 => exact UInt32.pos_iff_ne_zero.mp hb h0
    | method off hm =>
      rcases h with on | hsafe
      · rw [on] at off
        cases off
      · exact hm hsafe.1
    | payload off hstream =>
      rcases h with on | hsafe
      · rw [on] at off
        cases off
      · exact hsafe.2 hstream

theorem check_eq_ok_iff (r : Request) (c : Config) (p : Policy) :
    Gate.check r c = .ok p ↔
      p = Policy.ofConfig c ∧ 0 < c.budget ∧ (c.allowUnsafe = true ∨ r.IsSafe) := by
  rw [← not_fails_iff]
  rcases check_cases r c with ⟨e, hcheck, hfirst⟩ | ⟨hcheck, hnone⟩
  · rw [hcheck]
    exact ⟨fun h => (by cases h), fun h => absurd hfirst.1 (h.2 e)⟩
  · rw [hcheck]
    exact ⟨fun h => ⟨(Except.ok.inj h).symm, hnone⟩, fun h => by rw [h.1]⟩

theorem accepted_iff (r : Request) (c : Config) :
    (∃ p, Gate.check r c = .ok p) ↔ 0 < c.budget ∧ (c.allowUnsafe = true ∨ r.IsSafe) := by
  simp only [check_eq_ok_iff, exists_eq_left]

theorem check_congr {r' : Request} (hm : r'.method.idempotent = r.method.idempotent)
    (hp : r'.payload.isReplayable = r.payload.isReplayable) :
    Gate.check r' c = Gate.check r c := by
  unfold Gate.check
  rw [hm, hp]

end

/-! ## what is granted -/

def Op.isFailure : Op → Bool
  | .failure _ _ => true
  | _ => false

theorem isRetry_move {m m' : Machine} {op : Op} {x : Result} (hop : op.isFailure = false)
    (hm : Move m op x m') : (⟨m.phase, op, x⟩ : Event).isRetry = false := by
  cases hm with
  | retry cause h idle fits left => cases hop
  | refuse op h => exact isRetry_refusal _ _
  | _ => rfl

theorem no_call_without_failure (m : Machine) {ops : List Op} (h : ∀ op ∈ ops, op.isFailure = false) :
    ∀ e ∈ m.history ops, e.isRetry = false := by
  induction ops generalizing m with
  | nil => exact fun e he => absurd he List.not_mem_nil
  | cons op ops ih =>
    intro e he
    rw [history_cons] at he
    rcases List.mem_cons.mp he with rfl | he
    · exact isRetry_move (h op List.mem_cons_self) (move_step m op)
    · exact ih _ (fun op' hop' => h op' (List.mem_cons_of_mem op hop')) e he

/-- before the first failure a machine is at its first attempt, and waits for no other -/
theorem first_attempt (p : Policy) {ops : List Op} (h : ∀ op ∈ ops, op.isFailure = false) :
    ((new p).after ops).attempt = 1 ∧ ((new p).after ops).retryPending = false := by
  have hn := numbered_after p ops
  have hcalls := hn.count_calls
  have hnone : ((new p).history ops).countP Event.isRetry = 0 :=
    List.countP_eq_zero.mpr fun e he => by
      rw [no_call_without_failure (new p) h e he]
      exact Bool.false_ne_true
  rw [hnone] at hcalls
  refine ⟨by rw [hn.attempt]; omega, ?_⟩
  cases hp : ((new p).after ops).retryPending with
  | false => rfl
  | true =>
    rw [hp, Bool.toNat_true] at hcalls
    omega

/-- a failure of an attempt that is read, within the ceiling and the budget, calls for the next -/
theorem step_failure {m : Machine} (cause : Cause) (hread : m.isReading = true)
    (idle : m.retryPending = false) (fits : m.overflowed = false)
    (left : m.attempt < m.policy.maxAttempts) :
    m.step (.failure cause false) = (.directive (.retry (m.attempt + 1) cause), m.awaiting) := by
  have hopen := open_of_isReading hread
  have hm := move_failure m cause false hopen idle
  cases hx : m.step (.failure cause false) with
  | mk res m' =>
  rw [hx] at hm
  cases hm with
  | retry cause h idle fits left => rfl
  | giveUp cause aborted e h idle why =>
    cases why with
    | overflow aborted ho =>
      rw [fits] at ho
      cases ho
    | exhausted ho spent => omega
  | refuse op h =>
    rw [isRefused, hopen, idle] at h
    cases h

/-- a machine with two attempts or more calls for the second one at the first failure, and begins it -/
theorem retried_at_first {p : Policy} (hp : 2 ≤ p.maxAttempts) {ops : List Op}
    (h : ∀ op ∈ ops, op.isFailure = false) (hread : ((new p).after ops).isReading = true)
    (fits : ((new p).after ops).overflowed = false) (cause : Cause) :
    (((new p).after ops).step (.failure cause false)).1 = .directive (.retry 2 cause) ∧
      ((new p).after (ops ++ [.failure cause false])).beginAttempt.1 = true := by
  obtain ⟨hattempt, idle⟩ := first_attempt p h
  have left : ((new p).after ops).attempt < ((new p).after ops).policy.maxAttempts := by
    rw [hattempt, after_policy]
    exact hp
  have hstep := step_failure cause hread idle fits left
  rw [hattempt] at hstep
  rw [after_snoc, hstep]
  refine ⟨rfl, ?_⟩
  have hbegin : ¬ ((((new p).after ops).awaiting.phase != .retrying)
      || ((new p).after ops).awaiting.overflowed) = true := by
    rw [show ((new p).after ops).awaiting.overflowed = false from fits]
    exact Bool.false_ne_true
  rw [beginAttempt, if_neg hbegin]

/-- chunks that keep within the ceiling leave the attempt open for a retry -/
theorem reads_within (p : Policy) {cs : List Bytes}
    (h : Http.exceeds (some (byteCount cs)) p.ceiling = false) :
    ((new p).after (cs.map .chunk)).isReading = true ∧
      ((new p).after (cs.map .chunk)).overflowed = false := by
  obtain ⟨hread, hacc⟩ := reading_chunks p [] cs rfl
  rw [List.nil_append] at hread hacc
  have hcount := (counted_after p (cs.map .chunk)).received
  rw [hacc] at hcount
  refine ⟨hread, ?_⟩
  rw [overflowed_eq_exceeds, hcount]
  exact h

/-- what an accepted request is granted: the policy of the configuration, and a retry at least -/
structure Granted (c : Config) (p : Policy) : Prop where
  attempts : p.maxAttempts = min (c.budget.toNat + 1) (UInt32.size - 1)
  two_le : 2 ≤ p.maxAttempts
  delay : p.delay = ⟨c.delayMs⟩
  ceiling : p.ceiling = c.ceiling.map UInt64.toNat
  allowUnsafe : p.allowUnsafe = c.allowUnsafe
  /-- the first failure, in whatever order the machine was told before, calls for another attempt -/
  retried : ∀ ops, (∀ op ∈ ops, op.isFailure = false) → ((new p).after ops).isReading = true →
    ((new p).after ops).overflowed = false → ∀ cause,
    (((new p).after ops).step (.failure cause false)).1 = .directive (.retry 2 cause) ∧
      ((new p).after (ops ++ [.failure cause false])).beginAttempt.1 = true
  /-- so does the failure of a source that kept within the ceiling -/
  within : ∀ cs, Http.exceeds (some (byteCount cs)) p.ceiling = false → ∀ cause,
    (((new p).after (cs.map .chunk)).step (.failure cause false)).1 = .directive (.retry 2 cause)

theorem granted_ofConfig {c : Config} (h : 0 < c.budget) : Granted c (Policy.ofConfig c) := by
  have hpos : 0 < c.budget.toNat := UInt32.lt_iff_toNat_lt.mp h
  have hsize : UInt32.size = 4294967296 := rfl
  have hattempts : (Policy.ofConfig c).maxAttempts = min (c.budget.toNat + 1) (UInt32.size - 1) := by
    show min attemptCap _ = _
    rw [attemptCap]
    omega
  have htwo : 2 ≤ (Policy.ofConfig c).maxAttempts := by
    rw [hattempts]
    omega
  refine ⟨hattempts, htwo, rfl, rfl, rfl, fun ops hops hread fits cause => ?_, fun cs hcs cause => ?_⟩
  · exact retried_at_first htwo hops hread fits cause
  · obtain ⟨hread, fits⟩ := reads_within _ hcs
    have hops : ∀ op ∈ cs.map Op.chunk, op.isFailure = false := by
      intro op hop
      obtain ⟨b, -, rfl⟩ := List.mem_map.mp hop
      rfl
    exact (retried_at_first htwo hops hread fits cause).1

/-- **The gate.**  A request is accepted if and only if the budget is positive and unsafe requests are
allowed, or the request is safe; otherwise the first check that fails is reported.  Nothing but the
two facts of safety counts: neither address nor header nor the content of the payload, and a stage
that refuses does so in every world, whatever streams have been taken there, and leaves it as it is.
More budget and more leave never turn a request down.  What is granted is a policy under which every
machine calls for a second attempt at the first failure. -/
theorem gate_decides (r : Request) (c : Config) :
    ((∃ p, Gate.check r c = .ok p) ↔ 0 < c.budget ∧ (c.allowUnsafe = true ∨ r.IsSafe)) ∧
    (∀ e, Gate.check r c = .error e ↔ FailsFirst r c e) ∧
    (∀ r' : Request, (r'.method.name ∈ safeMethods ↔ r.method.name ∈ safeMethods) →
      (r'.HasStream ↔ r.HasStream) → Gate.check r' c = Gate.check r c) ∧
    (∀ e t ctx w, ctx.active = false → Gate.check r c = .error e →
      Scenario.World.pollExecuted ⟨Stage.execute c t r ctx, none⟩ w
        = (.inl (.ok (.error (.rejected e))), w)) ∧
    (∀ c' : Config, c.budget ≤ c'.budget → (c.allowUnsafe = true → c'.allowUnsafe = true) →
      (∃ p, Gate.check r c = .ok p) → ∃ p, Gate.check r c' = .ok p) ∧
    ∀ p, Gate.check r c = .ok p → Granted c p := by
  refine ⟨accepted_iff r c, check_eq_error_iff r c, fun r' hm hp => ?_, fun e t ctx w hctx he => ?_,
    fun c' hbudget hswitch h => ?_, fun p h => ?_⟩
  · refine check_congr (Bool.eq_iff_iff.mpr ?_) (Bool.eq_iff_iff.mpr ?_)
    · rw [idempotent_iff, idempotent_iff, hm]
    · rw [isReplayable_iff, isReplayable_iff, hp]
  · rw [execute_rejected hctx he]
    rfl
  · rw [accepted_iff] at h ⊢
    obtain ⟨hpos, hsafe⟩ := h
    exact ⟨UInt32.lt_of_lt_of_le hpos hbudget, hsafe.imp_left hswitch⟩
  · obtain ⟨rfl, hpos, -⟩ := (check_eq_ok_iff r c p).mp h
    exact granted_ofConfig hpos

end Refetch

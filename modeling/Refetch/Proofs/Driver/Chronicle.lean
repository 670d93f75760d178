import Refetch.Proofs.Driver.Outcome
/-!
# What a run logs, and when it pauses and calls

* `Assignment.retryCause?`  the failure for which an attempt is replaced;
* `Assignment.decisions`    the retries decided over a list of attempts;
* `Session.dealings`        the notes about the log, the pauses and the transport;
* `dealings_passage`        these notes over one attempt;
* `Story.dealings_eq`       over a whole run: one stretch for each retry, then an overflow at most;
* `Chronicle`               all of it, for a run under a configuration;
* `chronicle_of_run`        every run keeps it.

A retry is logged after the machine has given up the attempt that failed, but before it counts the
next one, so its record is about the former.
-/

namespace Refetch

open Session

/-! ## decisions -/

/-- the failure for which attempt `k` is replaced, if it is; `aborted` says whether an abort signal
is on when it ends -/
def Assignment.retryCause? (a : Assignment Source) (k : Nat) (t : Attempt) (aborted : Bool) :
    Option Cause :=
  if a.policy.outgrows t.source.chunks || aborted || a.policy.maxAttempts ≤ k then none
  else
    match t.close with
    | .failed cause => some cause
    | _ => none

/-- a retry that is decided: the attempt that failed, with its number, and the failure -/
structure Decision where
  number : Nat
  failed : Attempt
  cause : Cause

/-- the retries decided over some attempts, the first of them with number `k` -/
def Assignment.decisions (a : Assignment Source) :
    Nat → List Attempt → Stream' Bool → List Decision
  | _, [], _ => []
  | k, t :: ts, aborts =>
    (a.retryCause? k t aborts.head).toList.map (⟨k, t, ·⟩) ++ a.decisions (k + 1) ts aborts.tail

/-! ## notes -/

def Session.isDealing : Note → Bool
  | .logged _ _ => true
  | .paused _ => true
  | .called _ _ => true
  | _ => false

def Session.recordOf : Note → Option LogRecord
  | .logged r _ => some r
  | _ => none

/-- nothing may come after this note: an overflow was logged, or the log did not take an event -/
def Session.isLastWord : Note → Bool
  | .logged r (.ok none) => r.event == .overflow
  | .logged _ _ => true
  | _ => false

def Session.dealings (s : Session) : List Note := s.notes.filter isDealing

def Session.records (s : Session) : List LogRecord := s.notes.filterMap recordOf

namespace Assignment

variable (a : Assignment Source)

/-- a retry from its event on: if the log takes the event, the pause and the call follow -/
def retryDealings (x : Decision) (reply : Fallible (Option Cause)) : List Note :=
  .logged (a.retryRecord x.number (byteCount x.failed.source.chunks) x.cause) reply ::
    match reply with
    | .ok none => a.retryNotes
    | _ => []

/-- the record of the overflow of attempt `k`, if there is one -/
def overflowRecord? (k : Nat) (t : Attempt) : Option LogRecord :=
  (a.policy.overflow? t.source.chunks).map fun pre => a.overflowRecord k (byteCount pre)

def overflowDealings (k : Nat) (t : Attempt) (reply : Fallible (Option Cause)) : List Note :=
  (a.overflowRecord? k t).toList.map (.logged · reply)

end Assignment

theorem filter_sends (cs : List Bytes) : (sends cs).filter isDealing = [] := by
  simp [sends, isDealing]

theorem filter_errorNotes (e : Option StageError) : (errorNotes e).filter isDealing = [] := by
  simp [errorNotes, isDealing]

theorem filter_retryNotes (a : Assignment Source) :
    a.retryNotes.filter isDealing = a.retryNotes := by
  unfold Assignment.retryNotes
  split <;> rfl

/-! ## one attempt -/

section
variable {a : Assignment Source} {k : Nat} {t t' : Attempt} {w : Surroundings}

theorem retryCause?_eq_some {aborted : Bool} {cause : Cause} :
    a.retryCause? k t aborted = some cause ↔
      a.policy.outgrows t.source.chunks = false ∧ aborted = false ∧ k < a.policy.maxAttempts ∧
        t.close = .failed cause := by
  unfold Assignment.retryCause?
  cases a.policy.outgrows t.source.chunks with
  | true => simp
  | false =>
    cases aborted with
    | true => simp
    | false =>
      by_cases hk : a.policy.maxAttempts ≤ k
      · have hlt : ¬ k < a.policy.maxAttempts := Nat.not_lt.mpr hk
        simp [hk, hlt]
      · have hlt := Nat.lt_of_not_le hk
        cases t.close <;> simp [hlt]

theorem retryCause?_of_outgrows (h : a.policy.outgrows t.source.chunks = true) (aborted : Bool) :
    a.retryCause? k t aborted = none := by
  refine Option.eq_none_iff_forall_ne_some.mpr fun cause hc => ?_
  have hfits := (retryCause?_eq_some.mp hc).1
  rw [h] at hfits
  cases hfits

theorem overflow?_of_retryCause? {aborted : Bool} {cause : Cause}
    (h : a.retryCause? k t aborted = some cause) : a.policy.overflow? t.source.chunks = none := by
  have hsome := isSome_overflow? a.policy t.source.chunks
  rw [(retryCause?_eq_some.mp h).1] at hsome
  exact Option.not_isSome_iff_eq_none.mp (by rw [hsome]; exact Bool.false_ne_true)

/-- an attempt that fails below its ceiling is logged as it is decided -/
theorem dealings_failedPassage {cause : Cause} (ho : a.policy.outgrows t.source.chunks = false)
    (hc : t.close = .failed cause) :
    (failedPassage a k (byteCount t.source.chunks) cause w).notes.filter isDealing
      = (a.retryCause? k t w.aborts.head).elim []
          fun c => a.retryDealings ⟨k, t, c⟩ w.logs.head := by
  unfold failedPassage Assignment.retryCause?
  cases haborted : w.aborts.head with
  | true => simp
  | false =>
    by_cases hk : a.policy.maxAttempts ≤ k
    · simp [hk]
    · simp only [ho, hc, hk, Bool.false_eq_true, if_false, Bool.or_self, decide_false]
      rcases w.logs.head with words | _ | c
      · rfl
      · have hnotes := filter_retryNotes a
        simp only [logged, List.filter_cons, isDealing, if_true, hnotes]
        rfl
      · rfl

/-- over one attempt: the retry that it calls for, or its overflow -/
theorem dealings_passage (a : Assignment Source) (k : Nat) (t : Attempt) (w : Surroundings) :
    (passage a k t w).notes.filter isDealing
      = (a.retryCause? k t w.aborts.head).elim (a.overflowDealings k t w.logs.head)
          fun c => a.retryDealings ⟨k, t, c⟩ w.logs.head := by
  have hsome := isSome_overflow? a.policy t.source.chunks
  unfold passage Assignment.overflowDealings Assignment.overflowRecord?
  cases ho : a.policy.overflow? t.source.chunks with
  | some pre =>
    rw [ho] at hsome
    have hsends := filter_sends t.source.chunks
    rw [retryCause?_of_outgrows hsome.symm]
    dsimp only
    rcases w.logs.head with words | _ | c
    · rfl
    · simp only [logged, List.filter_cons, isDealing, if_true, hsends]
      rfl
    · rfl
  | none =>
    rw [ho] at hsome
    have hnone (hne : ∀ cause, t.close ≠ .failed cause) :
        a.retryCause? k t w.aborts.head = none :=
      Option.eq_none_iff_forall_ne_some.mpr fun cause h =>
        hne cause (retryCause?_eq_some.mp h).2.2.2
    cases hc : t.close with
    | clean =>
      rw [hnone fun cause h => by rw [hc] at h; cases h]
      exact filter_sends _
    | brokeDown words =>
      rw [hnone fun cause h => by rw [hc] at h; cases h]
      rfl
    | failed cause => exact dealings_failedPassage hsome.symm hc

/-- an attempt that is followed by another one called for it, and the log took the event -/
theorem retryCause?_of_again (h : (passage a k t w).fate = .again t') :
    ∃ cause, a.retryCause? k t w.aborts.head = some cause ∧ w.logs.head = .ok none := by
  obtain ⟨ho, hk⟩ := passage_again h
  have hout : a.policy.outgrows t.source.chunks = false := by
    rw [← isSome_overflow?, ho]
    rfl
  unfold passage at h
  rw [ho] at h
  cases hc : t.close with
  | clean => simp [hc] at h
  | brokeDown words => simp [hc] at h
  | failed cause =>
    simp only [hc] at h
    unfold failedPassage at h
    cases haborted : w.aborts.head with
    | true =>
      rw [haborted] at h
      cases h
    | false =>
      rw [haborted, if_neg Bool.false_ne_true, if_neg (Nat.not_le.mpr hk)] at h
      exact ⟨cause, retryCause?_eq_some.mpr ⟨hout, rfl, hk, hc⟩, (logged_again h).1⟩

end

/-! ## a whole run -/

section
variable {a : Assignment Source} {k : Nat} {t last : Attempt} {w : Surroundings}
  {notes : List Note} {v : Verdict}

theorem decisions_single (aborts : Stream' Bool) :
    a.decisions k [t] aborts = (a.retryCause? k t aborts.head).toList.map (⟨k, t, ·⟩) :=
  List.append_nil _

theorem decisions_cons {cause : Cause} {aborts : Stream' Bool} (ts : List Attempt)
    (h : a.retryCause? k t aborts.head = some cause) :
    a.decisions k (t :: ts) aborts = ⟨k, t, cause⟩ :: a.decisions (k + 1) ts aborts.tail := by
  rw [Assignment.decisions, h]
  rfl

/-- what is noted of the retries that were decided, each with the reply of the log to its event -/
def Assignment.retriesDealt (a : Assignment Source) (ds : List Decision)
    (logs : Stream' (Fallible (Option Cause))) : List Note :=
  (ds.mapIdx fun i x => a.retryDealings x (logs.get i)).flatten

theorem retriesDealt_cons (x : Decision) (ds : List Decision)
    (logs : Stream' (Fallible (Option Cause))) :
    a.retriesDealt (x :: ds) logs = a.retryDealings x logs.head ++ a.retriesDealt ds logs.tail := by
  rw [Assignment.retriesDealt, List.mapIdx_cons, List.flatten_cons]
  rfl

/-- the dealings of a run: one stretch for each retry, then the overflow of the last attempt -/
theorem Story.dealings_eq (st : Story a k t w notes last v) :
    notes.filter isDealing
      = a.retriesDealt (a.decisions k (t :: notes.filterMap attemptOf) w.aborts) w.logs
        ++ a.overflowDealings (k + (notes.filterMap attemptOf).length) last
            (w.logs.get (notes.filterMap attemptOf).length) := by
  induction st with
  | @ended k t w e calls h =>
    rw [attempts_ended h, List.filter_append, filter_errorNotes, List.append_nil, dealings_passage,
      decisions_single]
    cases hc : a.retryCause? k t w.aborts.head with
    | none => rfl
    | some cause =>
      -- an attempt that is replaced has not overflowed
      have ho := overflow?_of_retryCause? hc
      simp [Assignment.overflowDealings, Assignment.overflowRecord?, ho, Assignment.retriesDealt]
  | @again k t t' last w notes v h rest ih =>
    obtain ⟨cause, hc, hlog⟩ := retryCause?_of_again h
    have hfilter : ((passage a k t w).notes ++ .began t' :: notes).filter isDealing
        = a.retryDealings ⟨k, t, cause⟩ w.logs.head ++ notes.filter isDealing := by
      rw [List.filter_append, dealings_passage, hc]
      rfl
    rw [hfilter, attempts_again h, decisions_cons _ hc, retriesDealt_cons, ih, List.append_assoc,
      List.length_cons, Nat.add_right_comm]
    rfl

/-- the decisions are about the first attempts, in order, and only the last attempt may stand -/
theorem Story.decisions_shape (st : Story a k t w notes last v) :
    let ts := t :: notes.filterMap attemptOf
    let ds := a.decisions k ts w.aborts
    ds.map Decision.number = List.range' k ds.length ∧ ds.map Decision.failed <+: ts ∧
      ts.length ≤ ds.length + 1 ∧ ts.getLast? = some last := by
  induction st with
  | @ended k t w e calls h =>
    rw [attempts_ended h]
    dsimp only
    rw [decisions_single]
    cases a.retryCause? k t w.aborts.head with
    | none => simp
    | some cause => simp
  | @again k t t' last w notes v h rest ih =>
    obtain ⟨cause, hc, -⟩ := retryCause?_of_again h
    obtain ⟨hnumbers, hfailed, hlength, hlast⟩ := ih
    rw [attempts_again h]
    dsimp only
    rw [decisions_cons _ hc]
    refine ⟨?_, ?_, ?_, ?_⟩
    · rw [List.map_cons, List.length_cons, List.range'_succ]
      exact congrArg _ hnumbers
    · rw [List.map_cons]
      exact (List.prefix_cons_inj t).mpr hfailed
    · rw [List.length_cons, List.length_cons]
      exact Nat.succ_le_succ hlength
    · rw [List.getLast?_cons_cons]
      exact hlast

/-- a retry that the log took goes on, so no note of it is the last word -/
theorem not_isLastWord_retryDealings (x : Decision) :
    ∀ n ∈ a.retryDealings x (.ok none), isLastWord n = false := by
  unfold Assignment.retryDealings Assignment.retryNotes
  by_cases hz : a.policy.delay.ms = 0 <;> simp [hz, isLastWord, Assignment.retryRecord]

theorem pairwise_retryDealings (x : Decision) (reply : Fallible (Option Cause)) :
    (a.retryDealings x reply).Pairwise fun n _ => isLastWord n = false := by
  rcases reply with words | _ | c
  · exact List.pairwise_singleton _ _
  · exact List.pairwise_of_forall_mem_list fun n hn _ _ => not_isLastWord_retryDealings x n hn
  · exact List.pairwise_singleton _ _

theorem pairwise_overflowDealings (k : Nat) (t : Attempt) (reply : Fallible (Option Cause)) :
    (a.overflowDealings k t reply).Pairwise fun n _ => isLastWord n = false := by
  unfold Assignment.overflowDealings
  cases a.overflowRecord? k t with
  | none => exact List.Pairwise.nil
  | some r => exact List.pairwise_singleton _ _

/-- nothing comes after a last word -/
theorem Story.pairwise_dealings (st : Story a k t w notes last v) :
    (notes.filter isDealing).Pairwise fun n _ => isLastWord n = false := by
  induction st with
  | @ended k t w e calls h =>
    rw [List.filter_append, filter_errorNotes, List.append_nil, dealings_passage]
    cases a.retryCause? k t w.aborts.head with
    | none => exact pairwise_overflowDealings _ _ _
    | some cause => exact pairwise_retryDealings _ _
  | @again k t t' last w notes v h rest ih =>
    obtain ⟨cause, hc, hlog⟩ := retryCause?_of_again h
    rw [List.filter_append, dealings_passage, hc, hlog]
    refine List.pairwise_append.mpr ⟨pairwise_retryDealings _ _, ih, ?_⟩
    intro n hn _ _
    exact not_isLastWord_retryDealings _ n hn

end

/-! ## the records of a run -/

theorem records_eq_dealings (s : Session) : s.records = s.dealings.filterMap recordOf := by
  have hsame : ∀ n, recordOf n = if isDealing n = true then recordOf n else none := by
    intro n
    cases n <;> rfl
  rw [Session.records, Session.dealings, List.filterMap_filter]
  exact List.filterMap_congr fun n _ => hsame n

theorem records_retryDealings (a : Assignment Source) (x : Decision)
    (reply : Fallible (Option Cause)) :
    (a.retryDealings x reply).filterMap recordOf
      = [a.retryRecord x.number (byteCount x.failed.source.chunks) x.cause] := by
  unfold Assignment.retryDealings Assignment.retryNotes
  rcases reply with words | _ | c
  · rfl
  · by_cases hz : a.policy.delay.ms = 0 <;> simp [hz, recordOf]
  · rfl

theorem records_retriesDealt (a : Assignment Source) (ds : List Decision)
    (logs : Stream' (Fallible (Option Cause))) :
    (a.retriesDealt ds logs).filterMap recordOf
      = ds.map fun x => a.retryRecord x.number (byteCount x.failed.source.chunks) x.cause := by
  induction ds generalizing logs with
  | nil => rfl
  | cons x ds ih =>
    rw [retriesDealt_cons, List.filterMap_append, records_retryDealings, ih]
    rfl

/-! ## under a configuration -/

section
variable (config : Config) (r : Request) (c : Context)

def Config.assignment (t : Attempt) : Assignment Source :=
  ⟨.ofConfig config, r, c, t.source, t.promised⟩

/-- the record of a retry: the number and the bytes of the attempt that failed, the failure, and
the configured limits -/
def Config.retryRecord (x : Decision) : LogRecord where
  event := .retry
  requestId := c.requestId
  url := r.url.text
  attempt := x.number
  maxAttempts := min attemptCap (config.budget.toNat + 1)
  received := min countCap x.failed.source.chunks.flatten.length
  delayMs := config.delayMs.toNat
  error := some x.cause.message

/-- the record of an overflow of attempt `k`, by the first of its chunks that outgrow the ceiling -/
def Config.overflowRecord (k : Nat) (pre : List Bytes) : LogRecord where
  event := .overflow
  requestId := c.requestId
  url := r.url.text
  attempt := k
  maxAttempts := min attemptCap (config.budget.toNat + 1)
  received := min countCap pre.flatten.length
  delayMs := 0
  error := none

/-- the record of the overflow of the last of some attempts, if it overflowed -/
def Config.lastOverflow (ts : List Attempt) : Option LogRecord :=
  ts.getLast?.bind fun t =>
    ((Policy.ofConfig config).overflow? t.source.chunks).map (config.overflowRecord r c ts.length)

/-- what a run whose first attempt is `t` has noted of its log, its pauses and its transport, when
the retries `ds` were decided -/
structure Chronicle (t : Attempt) (w : Surroundings) (s : Session) (ds : List Decision) : Prop where
  /-- the retries that the attempts, the abort signals and the budget call for -/
  decided : ds = (config.assignment r c t).decisions 1 s.attempts w.aborts
  /-- they replace the first attempt, the second and so on, and at most one attempt stands -/
  numbers : ds.map Decision.number = List.range' 1 ds.length
  failed : ds.map Decision.failed <+: s.attempts
  replaced : s.attempts.length ≤ ds.length + 1
  /-- one event for each retry, then one for the overflow of the last attempt, if there was one -/
  records : s.records =
    ds.map (config.retryRecord r c) ++ (config.lastOverflow r c s.attempts).toList
  /-- a retry whose event the log took goes on with its pause, if there is one, and its call -/
  dealings : s.dealings = (config.assignment r c t).retriesDealt ds w.logs ++
    (config.lastOverflow r c s.attempts).toList.map
      (.logged · (w.logs.get (s.attempts.length - 1)))
  /-- nothing comes after an overflow, or after an event that the log did not take -/
  lastWord : s.dealings.Pairwise fun n _ => isLastWord n = false

theorem lastOverflow_eq {ts : List Attempt} {t last : Attempt} (h : ts.getLast? = some last) :
    config.lastOverflow r c ts = (config.assignment r c t).overflowRecord? ts.length last := by
  rw [Config.lastOverflow, h]
  rfl

theorem Chronicle.of_story {t last : Attempt} {w : Surroundings} {s : Session} {story : List Note}
    {v : Verdict} (hst : Story (config.assignment r c t) 1 t w story last v)
    (hnotes : s.notes = .began t :: story) :
    Chronicle config r c t w s ((config.assignment r c t).decisions 1 s.attempts w.aborts) := by
  obtain ⟨hnumbers, hfailed, hreplaced, hlast⟩ := hst.decisions_shape
  have hattempts : s.attempts = t :: story.filterMap attemptOf := by
    rw [attempts, hnotes]
    rfl
  have hstory : s.dealings = story.filter isDealing := by
    rw [Session.dealings, hnotes]
    rfl
  have hlength : (story.filterMap attemptOf).length = s.attempts.length - 1 := by
    rw [hattempts]
    rfl
  have hcount : 1 + (story.filterMap attemptOf).length = s.attempts.length := by
    rw [hattempts, List.length_cons, Nat.add_comm]
  rw [← hattempts] at hnumbers hfailed hreplaced hlast
  have hdealings := hst.dealings_eq
  rw [← hstory, ← hattempts, hcount, hlength, Assignment.overflowDealings,
    ← lastOverflow_eq config r c hlast] at hdealings
  refine ⟨rfl, hnumbers, hfailed, hreplaced, ?_, hdealings, ?_⟩
  · have hlogged (o : Option LogRecord) (reply : Fallible (Option Cause)) :
        (o.toList.map (Note.logged · reply)).filterMap recordOf = o.toList := by
      cases o <;> rfl
    rw [records_eq_dealings, hdealings, List.filterMap_append, records_retriesDealt, hlogged]
    rfl
  · rw [hstory]
    exact hst.pairwise_dealings

/-- **Every run keeps its chronicle.** -/
theorem chronicle_of_run (t : Attempt) (w : Surroundings) :
    ∃ s, (∀ u, Ends (.start (config.assignment r c t) w) u ↔ u = s) ∧
      ∃ ds, Chronicle config r c t w s ds := by
  obtain ⟨s, story, last, v, hst, hnotes, hends⟩ := ends_of_start (config.assignment r c t) w
  exact ⟨s, hends, _, .of_story config r c hst hnotes⟩

end

end Refetch

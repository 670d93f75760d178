import Refetch.Proofs.Machine.Ceiling
/-!
# Chunk boundaries

How the bytes of an attempt are cut into chunks is not seen by the machine:

* `Regrouped a b`       blocks of chunks in `a` are cut in another way in `b`;
* `Machine.joined`, `Result.joined`   the chunks held back or handed out made one;
* `joined_step`         one operation does not look at the cuts;
* `chunk_append`        two chunks one after the other are told as one;
* `joined_block`        so is a block of them, and an empty block is an empty chunk;
* `regrouping_unseen`   two runs that differ in their cuts agree in all but the cuts.

In the middle of a block the two runs may stand in different phases: the ceiling is passed inside
one chunk here and inside another there.  They agree again at its end, since the count that decides
is cut at its cap only once.
-/

namespace Refetch

open Machine

/-! ## cuts -/

/-- blocks of chunks are replaced by blocks, possibly empty, of the same bytes -/
inductive Regrouped : List Op → List Op → Prop where
  | nil : Regrouped [] []
  | block (cs ds : List Bytes) {a b : List Op} (h : cs.flatten = ds.flatten)
      (rest : Regrouped a b) : Regrouped (cs.map .chunk ++ a) (ds.map .chunk ++ b)
  | same (op : Op) {a b : List Op} (h : op.isChunk = false) (rest : Regrouped a b) :
      Regrouped (op :: a) (op :: b)

/-- the operations without the chunks of no bytes -/
def withoutEmpty (ops : List Op) : List Op := ops.filter (· ≠ .chunk [])

theorem regrouped_withoutEmpty (ops : List Op) : Regrouped (withoutEmpty ops) ops := by
  induction ops with
  | nil => exact .nil
  | cons op ops ih =>
    unfold withoutEmpty at ih ⊢
    by_cases hop : op = .chunk []
    · rw [List.filter_cons_of_neg (by simp [hop]), hop]
      exact .block [] [[]] rfl ih
    · rw [List.filter_cons_of_pos (by simp [hop])]
      cases op with
      | chunk c => exact .block [c] [c] rfl ih
      | finish => exact .same _ rfl ih
      | failure cause aborted => exact .same _ rfl ih
      | begin => exact .same _ rfl ih
      | fail e => exact .same _ rfl ih
      | cancel => exact .same _ rfl ih

/-! ## without the cuts -/

namespace Machine

/-- the machine with the chunks that it holds back made one -/
def joined (m : Machine) : Machine := { m with held := [m.held.flatten] }

end Machine

def Directive.joined : Directive → Directive
  | .forward cs => .forward [cs.flatten]
  | .finish cs => .finish [cs.flatten]
  | d => d

def Result.joined : Result → Result
  | .directive d => .directive d.joined
  | r => r

def Result.bytes : Result → Bytes
  | .directive (.forward cs) => cs.flatten
  | .directive (.finish cs) => cs.flatten
  | _ => []

theorem bytes_joined (r : Result) : r.joined.bytes = r.bytes := by
  rcases r with (_ | cs | cs | e | ⟨n, c⟩) | b | e | _ <;>
    simp [Result.joined, Directive.joined, Result.bytes]

theorem given_flatten (e : Event) : e.given.flatten = e.result.bytes := by
  obtain ⟨ph, op, (_ | cs | cs | e | ⟨n, c⟩) | b | e | _⟩ := e <;> rfl

/-- the operations that are no chunks, each with the phase it found and its answer without cuts -/
def answers (h : History) : List Event :=
  (h.filter fun e => !e.op.isChunk).map fun e => { e with result := e.result.joined }

theorem answers_append (a b : History) : answers (a ++ b) = answers a ++ answers b := by
  simp [answers, List.filter_append]

/-! ## one operation -/

section
variable {m m' : Machine} {op : Op} {r : Result}

/-- a move is the step that the operation makes -/
theorem step_of_move (h : Move m op r m') : m.step op = (r, m') := by
  cases h with
  | hold c hp fits =>
    unfold holding at fits ⊢
    simp [step, onChunk, hp, fits]
  | outgrow c hp beyond =>
    unfold holding at beyond ⊢
    simp only [step, onChunk, hp, beyond, if_true]
    rfl
  | pass c hp => simp [step, onChunk, hp]
  | finish hr => cases hp : m.phase <;> simp_all [isReading, step, onEnd]
  | giveUp cause aborted e ho idle why =>
    cases why with
    | overflow aborted hov => simp [step, onFailure, ho, idle, hov, failed]
    | aborted hov => simp [step, onFailure, ho, idle, hov, failed]
    | exhausted hov spent => simp [step, onFailure, ho, idle, hov, spent, failed]
  | retry cause ho idle fits left =>
    have hn : ¬ m.policy.maxAttempts ≤ m.attempt := by omega
    simp [step, onFailure, ho, idle, fits, hn, awaiting]
  | begin hp fits => simp [step, beginAttempt, hp, fits, renewed]
  | fail e ho => simp [step, Machine.fail, ho, failed]
  | cancel ho => simp [step, cancel, ho]
  | refuse op hr => exact step_refused m op hr

/-- the cuts of what is held back are not looked at -/
theorem joined_move (h : Move m op r m') :
    ∃ r' n, Move m.joined op r' n ∧ r'.joined = r.joined ∧ n.joined = m'.joined := by
  cases h with
  | hold c hp fits => exact ⟨_, _, .hold c hp fits, rfl, by simp [joined, holding, hold, receive]⟩
  | outgrow c hp beyond =>
    exact ⟨_, _, .outgrow c hp beyond, by simp [Result.joined, Directive.joined, joined], rfl⟩
  | pass c hp => exact ⟨_, _, .pass c hp, rfl, by simp [joined, receive]⟩
  | finish hr => exact ⟨_, _, .finish hr, by simp [Result.joined, Directive.joined, joined], rfl⟩
  | giveUp cause aborted e ho idle why =>
    have why' : m.joined.GivesUp cause aborted e := by
      cases why with
      | overflow aborted hov => exact .overflow aborted hov
      | aborted hov => exact .aborted hov
      | exhausted hov spent => exact .exhausted hov spent
    exact ⟨_, _, .giveUp cause aborted e ho idle why', rfl, rfl⟩
  | retry cause ho idle fits left => exact ⟨_, _, .retry cause ho idle fits left, rfl, rfl⟩
  | begin hp fits => exact ⟨_, _, .begin hp fits, rfl, rfl⟩
  | fail e ho => exact ⟨_, _, .fail e ho, rfl, rfl⟩
  | cancel ho => exact ⟨_, _, .cancel ho, rfl, rfl⟩
  | refuse op hr =>
    have hr' : m.joined.isRefused op = true := by cases op <;> exact hr
    exact ⟨_, _, .refuse op hr', rfl, by simp [joined]⟩

/-- machines that differ in their cuts alone do the same -/
theorem joined_step (h : m.joined = m'.joined) (op : Op) :
    (m.step op).1.joined = (m'.step op).1.joined ∧
      (m.step op).2.joined = (m'.step op).2.joined := by
  obtain ⟨r, n, hm, hr, hn⟩ := joined_move (move_step m op)
  obtain ⟨r', n', hm', hr', hn'⟩ := joined_move (move_step m' op)
  have hstep := step_of_move hm
  have hstep' := step_of_move hm'
  rw [h, hstep'] at hstep
  obtain ⟨rfl, rfl⟩ := Prod.mk.inj hstep
  exact ⟨hr.symm.trans hr', hn.symm.trans hn'⟩

end

/-! ## chunk after chunk -/

/-- the counts are within the cap, and no more is held back than the ceiling allows -/
structure Machine.Fits (m : Machine) : Prop where
  received : m.received ≤ countCap
  buffered : m.buffered ≤ countCap
  ceiling : m.isOverCeiling = false

theorem fits_new (p : Policy) : (new p).Fits :=
  ⟨Nat.zero_le _, Nat.zero_le _, isOverCeiling_of_empty _ rfl⟩

section
variable {m m' : Machine} {op : Op} {r : Result}

theorem Machine.Fits.move (h : m.Fits) (hm : Move m op r m') : m'.Fits := by
  have hceiling := within_move h.ceiling hm
  cases hm with
  | hold c hp fits => exact ⟨addCount_le _ _, addCount_le _ _, hceiling⟩
  | outgrow c hp beyond => exact ⟨addCount_le _ _, Nat.zero_le _, hceiling⟩
  | pass c hp => exact ⟨addCount_le _ _, h.buffered, hceiling⟩
  | begin hp fits => exact ⟨Nat.zero_le _, Nat.zero_le _, hceiling⟩
  | refuse op hr => exact h
  | finish hr => exact ⟨h.received, Nat.zero_le _, hceiling⟩
  | giveUp cause aborted e ho idle why => exact ⟨h.received, Nat.zero_le _, hceiling⟩
  | retry cause ho idle fits left => exact ⟨h.received, Nat.zero_le _, hceiling⟩
  | fail e ho => exact ⟨h.received, Nat.zero_le _, hceiling⟩
  | cancel ho => exact ⟨h.received, Nat.zero_le _, hceiling⟩

theorem Machine.Fits.step (h : m.Fits) (op : Op) : (m.step op).2.Fits := h.move (move_step m op)

theorem Machine.Fits.after (h : m.Fits) (ops : List Op) : (m.after ops).Fits := by
  induction ops generalizing m with
  | nil => exact h
  | cons op ops ih => exact ih (h.step op)

/-- a chunk of no bytes changes nothing -/
theorem chunk_nil (h : m.Fits) :
    (m.step (.chunk [])).2.joined = m.joined ∧ (m.step (.chunk [])).1.bytes = [] := by
  have hr := addCount_zero m.received h.received
  have hb := addCount_zero m.buffered h.buffered
  have hm := move_step m (.chunk [])
  generalize (m.step (.chunk [])).1 = r at hm
  generalize (m.step (.chunk [])).2 = m' at hm
  cases hm with
  | hold c hp fits =>
    exact ⟨by simp [joined, holding, hold, receive, hr, hb], rfl⟩
  | outgrow c hp beyond =>
    have hsame : (m.holding []).isOverCeiling = m.isOverCeiling := by
      simp [isOverCeiling, holding, hold, receive, hb]
    rw [hsame, h.ceiling] at beyond
    cases beyond
  | pass c hp => exact ⟨by simp [joined, receive, hr], rfl⟩
  | refuse op hr => exact ⟨rfl, rfl⟩

end

section
variable (m : Machine) (a b : Bytes)

theorem holding_append : ((m.holding a).holding b).joined = (m.holding (a ++ b)).joined := by
  simp [joined, holding, hold, receive, addCount_addCount]

theorem isOverCeiling_append :
    ((m.holding a).holding b).isOverCeiling = (m.holding (a ++ b)).isOverCeiling := by
  simp [isOverCeiling, holding, hold, receive, addCount_addCount]

theorem isOverCeiling_mono (h : (m.holding a).isOverCeiling = true) :
    (m.holding (a ++ b)).isOverCeiling = true := by
  rw [isOverCeiling_eq] at h ⊢
  refine exceeds_mono ?_ h
  show addCount m.buffered a.length ≤ addCount m.buffered (a ++ b).length
  simp only [addCount, List.length_append]
  omega

/-- two chunks one after the other are told as one -/
theorem chunk_append :
    ((m.step (.chunk a)).2.step (.chunk b)).2.joined = (m.step (.chunk (a ++ b))).2.joined ∧
      (m.step (.chunk a)).1.bytes ++ ((m.step (.chunk a)).2.step (.chunk b)).1.bytes
        = (m.step (.chunk (a ++ b))).1.bytes := by
  cases hp : m.phase with
  | buffering =>
    cases ha : (m.holding a).isOverCeiling with
    | true =>
      -- the first chunk outgrows the ceiling, and the second one is handed out as it comes
      have hab := isOverCeiling_mono m a b ha
      rw [step_of_move (.outgrow a hp ha), step_of_move (.outgrow (a ++ b) hp hab),
        step_of_move (.pass b rfl)]
      refine ⟨?_, by simp [Result.bytes]⟩
      simp [joined, Machine.streaming, Machine.discard, holding, hold, receive, addCount_addCount]
    | false =>
      have hover := isOverCeiling_append m a b
      have hp' : (m.holding a).phase = .buffering := hp
      rw [step_of_move (.hold a hp ha)]
      cases hab : (m.holding (a ++ b)).isOverCeiling with
      | true =>
        rw [step_of_move (.outgrow b hp' (hover.trans hab)),
          step_of_move (.outgrow (a ++ b) hp hab)]
        refine ⟨?_, by simp [Result.bytes, holding, hold, receive]⟩
        simp [joined, Machine.streaming, Machine.discard, holding, hold, receive, addCount_addCount]
      | false =>
        rw [step_of_move (.hold b hp' (hover.trans hab)), step_of_move (.hold (a ++ b) hp hab)]
        exact ⟨holding_append m a b, rfl⟩
  | streaming =>
    rw [step_of_move (.pass a hp), step_of_move (.pass (a ++ b) hp),
      step_of_move (.pass b (m := m.receive a.length) hp)]
    refine ⟨?_, by simp [Result.bytes]⟩
    simp [joined, receive, addCount_addCount]
  | _ =>
    have hr (c : Bytes) : m.isRefused (.chunk c) = true := by simp [isRefused, isReading, hp]
    rw [step_refused m _ (hr a), step_refused m _ (hr b), step_refused m _ (hr (a ++ b))]
    exact ⟨rfl, rfl⟩

end

theorem flatten_handedOut (h : History) :
    (handedOut h).flatten = (h.map fun e => e.result.bytes).flatten := by
  induction h with
  | nil => rfl
  | cons e h ih =>
    rw [List.map_cons, List.flatten_cons, ← ih, ← given_flatten, ← List.flatten_append]
    rfl

def bytesOf (m : Machine) (ops : List Op) : Bytes :=
  ((m.history ops).map fun e => e.result.bytes).flatten

theorem bytesOf_cons (m : Machine) (op : Op) (ops : List Op) :
    bytesOf m (op :: ops) = (m.step op).1.bytes ++ bytesOf (m.step op).2 ops := rfl

theorem bytesOf_append (m : Machine) (a b : List Op) :
    bytesOf m (a ++ b) = bytesOf m a ++ bytesOf (m.after a) b := by
  simp [bytesOf, history_append]

/-- a block of chunks is told as one -/
theorem joined_block {m : Machine} (h : m.Fits) (cs : List Bytes) :
    (m.after (cs.map .chunk)).joined = (m.step (.chunk cs.flatten)).2.joined ∧
      bytesOf m (cs.map .chunk) = (m.step (.chunk cs.flatten)).1.bytes := by
  induction cs generalizing m with
  | nil =>
    obtain ⟨hj, hb⟩ := chunk_nil h
    exact ⟨hj.symm, hb.symm⟩
  | cons c cs ih =>
    obtain ⟨hj, hb⟩ := ih (h.step (.chunk c))
    obtain ⟨hj', hb'⟩ := chunk_append m c cs.flatten
    rw [List.map_cons, after_cons, bytesOf_cons, List.flatten_cons]
    exact ⟨hj.trans hj', by rw [hb, hb']⟩

theorem answers_block (m : Machine) (cs : List Bytes) :
    answers (m.history (cs.map .chunk)) = [] := by
  induction cs generalizing m with
  | nil => rfl
  | cons c cs ih => exact ih _

/-- runs from machines that differ in their cuts alone, told the same bytes -/
theorem Regrouped.run {a b : List Op} (h : Regrouped a b) {m m' : Machine} (hm : m.Fits)
    (hm' : m'.Fits) (hj : m.joined = m'.joined) :
    (m.after a).joined = (m'.after b).joined ∧ bytesOf m a = bytesOf m' b ∧
      answers (m.history a) = answers (m'.history b) := by
  induction h generalizing m m' with
  | nil => exact ⟨hj, rfl, rfl⟩
  | block cs ds hf rest ih =>
    obtain ⟨hc, hcb⟩ := joined_block hm cs
    obtain ⟨hd, hdb⟩ := joined_block hm' ds
    obtain ⟨hr, hs⟩ := joined_step hj (.chunk cs.flatten)
    rw [← hf] at hd hdb
    obtain ⟨hafter, hbytes, hanswers⟩ := ih (hm.after (cs.map .chunk)) (hm'.after (ds.map .chunk))
      (hc.trans (hs.trans hd.symm))
    refine ⟨?_, ?_, ?_⟩
    · rw [after_append, after_append, hafter]
    · rw [bytesOf_append, bytesOf_append, hbytes, hcb, hdb, ← bytes_joined, hr, bytes_joined]
    · rw [history_append, history_append, answers_append, answers_append, answers_block,
        answers_block, hanswers]
  | same op hop rest ih =>
    obtain ⟨hr, hs⟩ := joined_step hj op
    obtain ⟨hafter, hbytes, hanswers⟩ := ih (hm.step op) (hm'.step op) hs
    have hphase := congrArg Machine.phase hj
    change m.phase = m'.phase at hphase
    refine ⟨?_, ?_, ?_⟩
    · rw [after_cons, after_cons, hafter]
    · rw [bytesOf_cons, bytesOf_cons, hbytes, ← bytes_joined, hr, bytes_joined]
    · rw [history_cons, history_cons]
      simp only [answers, List.filter_cons, hop, Bool.not_false, if_true, List.map_cons]
        at hanswers ⊢
      rw [hanswers, hr, hphase]

/-! ## two runs -/

/-- what two runs of new machines with the policy `p` agree in -/
structure AgreeButForCuts (p : Policy) (a b : List Op) : Prop where
  phase : ((new p).after a).phase = ((new p).after b).phase
  attempt : ((new p).after a).attempt = ((new p).after b).attempt
  buffered : ((new p).after a).buffered = ((new p).after b).buffered
  received : ((new p).after a).received = ((new p).after b).received
  overflowed : ((new p).after a).overflowed = ((new p).after b).overflowed
  retryPending : ((new p).after a).retryPending = ((new p).after b).retryPending
  held : ((new p).after a).held.flatten = ((new p).after b).held.flatten
  handedOut : (handedOut ((new p).history a)).flatten = (handedOut ((new p).history b)).flatten
  /-- the operations that are no chunks find the same phase and get the same answer -/
  answers : answers ((new p).history a) = answers ((new p).history b)

theorem agree_of_regrouped (p : Policy) {a b : List Op} (h : Regrouped a b) :
    AgreeButForCuts p a b := by
  obtain ⟨hj, hb, ha⟩ := h.run (fits_new p) (fits_new p) rfl
  simp only [joined, Machine.mk.injEq, List.cons.injEq, and_true] at hj
  obtain ⟨-, phase, attempt, held, buffered, received, overflowed, retryPending⟩ := hj
  have hgiven := (flatten_handedOut _).trans (hb.trans (flatten_handedOut _).symm)
  exact ⟨phase, attempt, buffered, received, overflowed, retryPending, held, hgiven, ha⟩

/-- an attempt has passed its ceiling or not by the number of its bytes -/
theorem overflowed_eq_of_count (p : Policy) (a b : List Op)
    (h : (accepted ((new p).history a)).flatten.length
      = (accepted ((new p).history b)).flatten.length) :
    ((new p).after a).overflowed = ((new p).after b).overflowed := by
  rw [overflowed_eq_exceeds, overflowed_eq_exceeds, (counted_after p a).received,
    (counted_after p b).received, byteCount, byteCount, h]

/-- **Chunk boundaries do not matter.**  Runs that are told the same bytes between the same other
operations agree in all but the cuts; chunks of no bytes may be left out; and whether an attempt has
passed its ceiling is a matter of the number of its bytes. -/
theorem regrouping_unseen (p : Policy) (a b : List Op) :
    (Regrouped a b → AgreeButForCuts p a b) ∧
    AgreeButForCuts p (withoutEmpty a) a ∧
    ((accepted ((new p).history a)).flatten.length
        = (accepted ((new p).history b)).flatten.length →
      ((new p).after a).overflowed = ((new p).after b).overflowed) :=
  ⟨agree_of_regrouped p, agree_of_regrouped p (regrouped_withoutEmpty a),
    overflowed_eq_of_count p a b⟩

/-- a ceiling of two bytes is passed inside the second chunk of one run, inside the third of the
other -/
theorem regrouping_unseen_ceiling :
    AgreeButForCuts { maxAttempts := 2, ceiling := some 2 }
      [.chunk [97], .chunk [98, 99, 100], .finish]
      [.chunk [97], .chunk [98], .chunk [99, 100], .chunk [], .finish] ∧
    handedOut ((new { maxAttempts := 2, ceiling := some 2 }).history
        [.chunk [97], .chunk [98, 99, 100], .finish])
      = [[97], [98, 99, 100]] ∧
    handedOut ((new { maxAttempts := 2, ceiling := some 2 }).history
        [.chunk [97], .chunk [98], .chunk [99, 100], .chunk [], .finish])
      = [[97], [98], [99, 100], []] :=
  ⟨(regrouping_unseen _ _ _).1
    (.block [[97], [98, 99, 100]] [[97], [98], [99, 100], []] rfl (.same .finish rfl .nil)),
    by decide, by decide⟩

end Refetch

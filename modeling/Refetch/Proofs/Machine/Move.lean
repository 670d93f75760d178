import Refetch.Proofs.Machine.History
/-!
# Moves of the retry machine

All that one operation can do to a machine, said once:

* `Machine.isRefused`  the operation changes nothing, and `refusal` is its answer;
* `Machine.GivesUp`    the error that a failure ends the output with, and when;
* `Move`               one operation with its answer and the machine after it;
* `move_step`          every step is a move;
* `after_induction`    what holds of a new machine and is kept by every move holds after every run.
-/

namespace Refetch

/-- the answer to an operation that is refused -/
def refusal : Op → Result
  | .chunk _ => .directive .nothing
  | .finish => .directive .nothing
  | .failure _ _ => .directive .nothing
  | .begin => .began false
  | .fail _ => .failed none
  | .cancel => .cancelled

namespace Machine

/-- the machine reads a source: it is buffering or streaming -/
def isReading (m : Machine) : Bool := m.phase == .buffering || m.phase == .streaming

theorem open_of_isReading {m : Machine} (h : m.isReading = true) : m.phase.isTerminal = false := by
  cases hp : m.phase <;> simp_all [isReading, Phase.isTerminal]

/-- the operation changes nothing -/
def isRefused (m : Machine) : Op → Bool
  | .chunk _ => !m.isReading
  | .finish => !m.isReading
  | .failure _ _ => m.phase.isTerminal || m.retryPending
  | .begin => m.phase != .retrying || m.overflowed
  | .fail _ => m.phase.isTerminal
  | .cancel => m.phase.isTerminal

/-- the error that a failure with this cause, with an abort signal on or off, ends the output with -/
inductive GivesUp (m : Machine) (cause : Cause) : Bool → StageError → Prop where
  | overflow (aborted : Bool) (h : m.overflowed = true) : GivesUp m cause aborted (.overflow cause)
  | aborted (h : m.overflowed = false) : GivesUp m cause true (.aborted cause)
  | exhausted (h : m.overflowed = false) (spent : m.policy.maxAttempts ≤ m.attempt) :
      GivesUp m cause false (.exhausted m.attempt cause)

def failed (m : Machine) : Machine := { m.discard with phase := .failed }

def awaiting (m : Machine) : Machine := { m.discard with retryPending := true, phase := .retrying }

def renewed (m : Machine) : Machine :=
  { m.discard with
    attempt := m.attempt + 1, received := 0, retryPending := false, phase := .buffering }

/-- the machine after a chunk came while it was buffering, whatever the ceiling says -/
def holding (m : Machine) (c : Bytes) : Machine := (m.receive c.length).hold c

def streaming (m : Machine) : Machine := { m.discard with overflowed := true, phase := .streaming }

end Machine

open Machine

/-- one operation on a machine, its answer and the machine after it -/
inductive Move (m : Machine) : Op → Result → Machine → Prop where
  /-- a chunk is held back -/
  | hold (c : Bytes) (h : m.phase = .buffering) (fits : (m.holding c).isOverCeiling = false) :
      Move m (.chunk c) (.directive .nothing) (m.holding c)
  /-- a chunk outgrows the ceiling -/
  | outgrow (c : Bytes) (h : m.phase = .buffering) (beyond : (m.holding c).isOverCeiling = true) :
      Move m (.chunk c) (.directive (.forward (m.held ++ [c]))) (m.holding c).streaming
  /-- a chunk is handed out as it comes -/
  | pass (c : Bytes) (h : m.phase = .streaming) :
      Move m (.chunk c) (.directive (.forward [c])) (m.receive c.length)
  | finish (h : m.isReading = true) :
      Move m .finish (.directive (.finish m.held)) { m.discard with phase := .completed }
  /-- a failure ends the output -/
  | giveUp (cause : Cause) (aborted : Bool) (e : StageError) (h : m.phase.isTerminal = false)
      (idle : m.retryPending = false) (why : m.GivesUp cause aborted e) :
      Move m (.failure cause aborted) (.directive (.fail e)) m.failed
  /-- a failure calls for a retry -/
  | retry (cause : Cause) (h : m.phase.isTerminal = false) (idle : m.retryPending = false)
      (fits : m.overflowed = false) (left : m.attempt < m.policy.maxAttempts) :
      Move m (.failure cause false) (.directive (.retry (m.attempt + 1) cause)) m.awaiting
  | begin (h : m.phase = .retrying) (fits : m.overflowed = false) :
      Move m .begin (.began true) m.renewed
  | fail (e : StageError) (h : m.phase.isTerminal = false) :
      Move m (.fail e) (.failed (some e)) m.failed
  | cancel (h : m.phase.isTerminal = false) :
      Move m .cancel .cancelled { m.discard with phase := .cancelled }
  | refuse (op : Op) (h : m.isRefused op = true) : Move m op (refusal op) m

/-! ## every step is a move -/

theorem step_refused (m : Machine) (op : Op) (h : m.isRefused op = true) :
    m.step op = (refusal op, m) := by
  cases op with
  | chunk c =>
    cases hp : m.phase <;> simp_all [isRefused, isReading, step, onChunk, refusal]
  | finish =>
    cases hp : m.phase <;> simp_all [isRefused, isReading, step, onEnd, refusal]
  | failure cause aborted =>
    have hf : m.onFailure cause aborted = (.nothing, m) := if_pos h
    rw [step, hf]
    rfl
  | begin =>
    have hb : m.beginAttempt = (false, m) := if_pos h
    rw [step, hb]
    rfl
  | fail e =>
    have hf : m.fail e = (none, m) := if_pos h
    rw [step, hf]
    rfl
  | cancel =>
    have hc : m.cancel = m := if_pos h
    rw [step, hc]
    rfl

theorem move_chunk (m : Machine) (c : Bytes) (h : m.isReading = true) :
    Move m (.chunk c) (m.step (.chunk c)).1 (m.step (.chunk c)).2 := by
  cases hp : m.phase with
  | buffering =>
    cases ho : (m.holding c).isOverCeiling with
    | true =>
      have e : m.onChunk c = (.forward (m.held ++ [c]), (m.holding c).streaming) := by
        rw [onChunk, hp]
        exact if_pos ho
      rw [step, e]
      exact .outgrow c hp ho
    | false =>
      have e : m.onChunk c = (.nothing, m.holding c) := by
        rw [onChunk, hp]
        exact if_neg (by rw [← holding, ho]; exact Bool.false_ne_true)
      rw [step, e]
      exact .hold c hp ho
  | streaming =>
    have e : m.onChunk c = (.forward [c], m.receive c.length) := by rw [onChunk, hp]
    rw [step, e]
    exact .pass c hp
  | retrying => simp [isReading, hp] at h
  | completed => simp [isReading, hp] at h
  | failed => simp [isReading, hp] at h
  | cancelled => simp [isReading, hp] at h

theorem move_finish (m : Machine) (h : m.isReading = true) :
    Move m .finish (m.step .finish).1 (m.step .finish).2 := by
  have e : m.onEnd = (.finish m.held, { m.discard with phase := .completed }) := by
    cases hp : m.phase <;> simp_all [isReading, onEnd]
  rw [step, e]
  exact .finish h

theorem move_failure (m : Machine) (cause : Cause) (aborted : Bool)
    (h : m.phase.isTerminal = false) (idle : m.retryPending = false) :
    Move m (.failure cause aborted) (m.step (.failure cause aborted)).1
      (m.step (.failure cause aborted)).2 := by
  have hopen : ¬ (m.phase.isTerminal || m.retryPending) = true := by rw [h, idle]; simp
  show Move m _ (.directive (m.onFailure cause aborted).1) (m.onFailure cause aborted).2
  unfold onFailure
  rw [if_neg hopen]
  cases ho : m.overflowed with
  | true => exact .giveUp cause aborted _ h idle (.overflow aborted ho)
  | false =>
    cases aborted with
    | true => exact .giveUp cause true _ h idle (.aborted ho)
    | false =>
      by_cases spent : m.policy.maxAttempts ≤ m.attempt
      · simp only [Bool.false_eq_true, if_false, if_pos spent]
        exact .giveUp cause false _ h idle (.exhausted ho spent)
      · simp only [Bool.false_eq_true, if_false, if_neg spent]
        exact .retry cause h idle ho (Nat.lt_of_not_le spent)

theorem move_step (m : Machine) (op : Op) : Move m op (m.step op).1 (m.step op).2 := by
  cases hr : m.isRefused op with
  | true =>
    rw [step_refused m op hr]
    exact .refuse op hr
  | false =>
    cases op with
    | chunk c => exact move_chunk m c (by simpa [isRefused] using hr)
    | finish => exact move_finish m (by simpa [isRefused] using hr)
    | failure cause aborted =>
      obtain ⟨h, idle⟩ := Bool.or_eq_false_iff.mp hr
      exact move_failure m cause aborted h idle
    | begin =>
      have hb : m.beginAttempt = (true, m.renewed) :=
        if_neg (by rw [show (m.phase != .retrying || m.overflowed) = false from hr]; simp)
      obtain ⟨h, fits⟩ := Bool.or_eq_false_iff.mp hr
      rw [step, hb]
      exact .begin (by simpa using h) fits
    | fail e =>
      have hf : m.fail e = (some e, m.failed) :=
        if_neg (by rw [show m.phase.isTerminal = false from hr]; simp)
      rw [step, hf]
      exact .fail e hr
    | cancel =>
      have hc : m.cancel = { m.discard with phase := .cancelled } :=
        if_neg (by rw [show m.phase.isTerminal = false from hr]; simp)
      rw [step, hc]
      exact .cancel hr

/-! ## runs -/

/-- what holds of a new machine and is kept by every move holds after every run -/
theorem after_induction {P : History → Machine → Prop} (p : Policy) (start : P [] (.new p))
    (kept : ∀ h m op r m', P h m → Move m op r m' → P (h ++ [⟨m.phase, op, r⟩]) m')
    (ops : List Op) : P ((new p).history ops) ((new p).after ops) := by
  -- a history grows at its end, so the last operation is taken off
  induction ops using List.reverseRecOn with
  | nil => exact start
  | append_singleton ops op ih =>
    rw [history_snoc, after_snoc]
    exact kept _ _ _ _ _ ih (move_step _ op)

theorem after_policy (p : Policy) (ops : List Op) : ((new p).after ops).policy = p := by
  refine after_induction (P := fun _ m => m.policy = p) p rfl ?_ ops
  intro h m op r m' hm hmove
  rw [← hm]
  cases hmove <;> rfl

end Refetch

import Refetch.Proofs.Machine.Accounting
/-!
# How the output is closed

Over a whole run, told in any order:

* `Result.closing?`     the phase that an answer closes the output in;
* `refused_run`         operations that are refused one by one are refused together;
* `closing?_of_closed`  a move that closes the output answers so, or is a cancel;
* `closings_after`      the answers that close the output, counted by the phase;
* `ClosedOnce`          all of it, for a run;
* `closed_once`         every run of a new machine closes its output at most once, and for good.
-/

namespace Refetch

open Machine

/-- the phase that an answer closes the output in -/
def Result.closing? : Result → Option Phase
  | .directive (.finish _) => some .completed
  | .directive (.fail _) => some .failed
  | .failed (some _) => some .failed
  | _ => none

def Event.isClosing (e : Event) : Bool := e.result.closing?.isSome

/-- chunks were handed out while the output went on -/
def Event.isForward (e : Event) : Bool :=
  match e.result with
  | .directive (.forward _) => true
  | _ => false

/-- the operation is a word about a source: a chunk, its end or its failure -/
def Op.isWord : Op → Bool
  | .chunk _ => true
  | .finish => true
  | .failure _ _ => true
  | _ => false

/-! ## what is refused -/

theorem isRefused_of_terminal {m : Machine} (h : m.phase.isTerminal = true) (op : Op) :
    m.isRefused op = true := by
  have hread : m.isReading = false := by
    refine Bool.eq_false_iff.mpr fun hr => ?_
    rw [open_of_isReading hr] at h
    cases h
  have hwait : (m.phase != .retrying) = true := by
    refine bne_iff_ne.mpr fun hp => ?_
    rw [hp] at h
    cases h
  cases op with
  | chunk c => rw [isRefused, hread]; rfl
  | finish => rw [isRefused, hread]; rfl
  | failure cause aborted => rw [isRefused, h]; rfl
  | begin => rw [isRefused, hwait]; rfl
  | fail e => exact h
  | cancel => exact h

/-- between two attempts a machine takes no word about a source -/
theorem isRefused_of_retrying {m : Machine} (hp : m.phase = .retrying)
    (hq : m.retryPending = true) (op : Op) (hw : op.isWord = true) : m.isRefused op = true := by
  have hread : m.isReading = false := by simp [isReading, hp]
  cases op with
  | chunk c => rw [isRefused, hread]; rfl
  | finish => rw [isRefused, hread]; rfl
  | failure cause aborted => rw [isRefused, hq, Bool.or_true]
  | begin => cases hw
  | fail e => cases hw
  | cancel => cases hw

/-- operations that are refused one by one change nothing together -/
theorem refused_run (m : Machine) (ops : List Op) (h : ∀ op ∈ ops, m.isRefused op = true) :
    m.after ops = m ∧ ∀ e ∈ m.history ops, e.op ∈ ops ∧ e.result = refusal e.op := by
  induction ops with
  | nil => exact ⟨rfl, fun e he => absurd he List.not_mem_nil⟩
  | cons op ops ih =>
    have hstep := step_refused m op (h op List.mem_cons_self)
    obtain ⟨hafter, hall⟩ := ih fun op' hop => h op' (List.mem_cons_of_mem _ hop)
    rw [after_cons, history_cons, hstep]
    refine ⟨hafter, fun e he => ?_⟩
    rcases List.mem_cons.mp he with rfl | he
    · exact ⟨List.mem_cons_self, rfl⟩
    · exact ⟨List.mem_cons_of_mem _ (hall e he).1, (hall e he).2⟩

theorem refusal_of_isWord {op : Op} (h : op.isWord = true) : refusal op = .directive .nothing := by
  cases op <;> first | rfl | cases h

theorem closing?_refusal (op : Op) : (refusal op).closing? = none := by
  cases op <;> rfl

/-! ## moves that close the output -/

section
variable {m m' : Machine} {op : Op} {r : Result}

/-- an answer that closes the output finds it open, and says in which phase it is then -/
theorem closed_of_closing? {ph : Phase} (hm : Move m op r m') (h : r.closing? = some ph) :
    m.phase.isTerminal = false ∧ m'.phase = ph ∧ ph.isTerminal = true := by
  cases hm with
  | hold c hp fits => cases h
  | outgrow c hp beyond => cases h
  | pass c hp => cases h
  | finish hr =>
    cases h
    exact ⟨open_of_isReading hr, rfl, rfl⟩
  | giveUp cause aborted e ho idle why => cases h; exact ⟨ho, rfl, rfl⟩
  | retry cause ho idle fits left => cases h
  | begin hp fits => cases h
  | fail e ho => cases h; exact ⟨ho, rfl, rfl⟩
  | cancel ho => cases h
  | refuse op hr => rw [closing?_refusal] at h; cases h

/-- a move that closes the output is a cancel, or its answer says in which phase -/
theorem closing?_of_closed (hm : Move m op r m') (ho : m.phase.isTerminal = false)
    (hc : m'.phase.isTerminal = true) :
    op = .cancel ∧ r = .cancelled ∧ m'.phase = .cancelled ∨ r.closing? = some m'.phase := by
  cases hm with
  | hold c hp fits =>
    rw [show (m.holding c).phase = m.phase from rfl, ho] at hc
    cases hc
  | outgrow c hp beyond => cases hc
  | pass c hp =>
    rw [show (m.receive c.length).phase = m.phase from rfl, ho] at hc
    cases hc
  | finish hr => exact .inr rfl
  | giveUp cause aborted e ho idle why => exact .inr rfl
  | retry cause ho idle fits left => cases hc
  | begin hp fits => cases hc
  | fail e ho => exact .inr rfl
  | cancel ho => exact .inl ⟨rfl, rfl, rfl⟩
  | refuse op hr => rw [ho] at hc; cases hc

theorem phase_of_cancel (hm : Move m op r m') (hop : op = .cancel)
    (ho : m.phase.isTerminal = false) : m'.phase = .cancelled := by
  subst hop
  cases hm with
  | cancel h => rfl
  | refuse op hr => rw [show m.isRefused .cancel = m.phase.isTerminal from rfl, ho] at hr; cases hr

theorem eq_of_closed (hm : Move m op r m') (hc : m.phase.isTerminal = true) : m' = m := by
  have hr := isRefused_of_terminal hc op
  cases hm with
  | refuse op hr' => rfl
  | hold c hp fits => rw [hp] at hc; cases hc
  | outgrow c hp beyond => rw [hp] at hc; cases hc
  | pass c hp => rw [hp] at hc; cases hc
  | begin hp fits => rw [hp] at hc; cases hc
  | finish h => simp [isRefused, h] at hr
  | giveUp cause aborted e ho idle why => rw [ho] at hc; cases hc
  | retry cause ho idle fits left => rw [ho] at hc; cases hc
  | fail e ho => rw [ho] at hc; cases hc
  | cancel ho => rw [ho] at hc; cases hc

end

/-! ## runs -/

/-- the output was closed by an answer: cleanly, or with an error -/
def Phase.isAnswered (ph : Phase) : Bool := ph == .completed || ph == .failed

theorem isAnswered_of_closing? {r : Result} {ph : Phase} (h : r.closing? = some ph) :
    ph.isAnswered = true := by
  unfold Result.closing? at h
  split at h <;> cases h <;> rfl

theorem isAnswered_of_open {ph : Phase} (h : ph.isTerminal = false) : ph.isAnswered = false := by
  cases ph <;> first | rfl | cases h

/-- an answer closes the output just when the phase becomes one that was answered -/
theorem isAnswered_move {m : Machine} {op : Op} {r : Result} {m' : Machine}
    (hm : Move m op r m') :
    m'.phase.isAnswered.toNat = m.phase.isAnswered.toNat + r.closing?.isSome.toNat := by
  cases hr : r.closing? with
  | some ph =>
    obtain ⟨ho, hp, -⟩ := closed_of_closing? hm hr
    rw [hp, isAnswered_of_closing? hr, isAnswered_of_open ho]
    rfl
  | none =>
    cases hc : m.phase.isTerminal with
    | true => rw [eq_of_closed hm hc]; rfl
    | false =>
      rw [isAnswered_of_open hc]
      cases hc' : m'.phase.isTerminal with
      | false => rw [isAnswered_of_open hc']; rfl
      | true =>
        rcases closing?_of_closed hm hc hc' with ⟨-, -, hp⟩ | h
        · rw [hp]; rfl
        · rw [hr] at h; cases h

/-- the answers that closed the output: one if the phase tells of one, else none -/
theorem closings_after (p : Policy) (ops : List Op) :
    ((new p).history ops).countP Event.isClosing = ((new p).after ops).phase.isAnswered.toNat := by
  refine after_induction (P := fun h m => h.countP Event.isClosing = m.phase.isAnswered.toNat) p
    rfl ?_ ops
  intro h m op r m' hcount hm
  have hone : [(⟨m.phase, op, r⟩ : Event)].countP Event.isClosing = r.closing?.isSome.toNat := by
    rw [List.countP_singleton, Event.isClosing]
    cases r.closing?.isSome <;> rfl
  rw [List.countP_append, hcount, isAnswered_move hm, hone]

/-- once the output is closed nothing is handed out and nothing closes it -/
theorem quiet_of_closed {m : Machine} (h : m.phase.isTerminal = true) (ops : List Op) :
    ∀ e ∈ m.history ops, e.isClosing = false ∧ e.isForward = false := by
  intro e he
  have hr := (refused_run m ops fun op _ => isRefused_of_terminal h op).2 e he
  refine ⟨?_, ?_⟩
  · rw [Event.isClosing, hr.2, closing?_refusal]
    rfl
  · rw [Event.isForward, hr.2]
    cases e.op <;> rfl

/-- an event of a run, with the machine that it found and left -/
theorem event_split (p : Policy) (ops : List Op) (xs ys : History) (e : Event)
    (h : (new p).history ops = xs ++ e :: ys) :
    ∃ a b, ops = a ++ e.op :: b ∧ e.phase = ((new p).after a).phase ∧
      Move ((new p).after a) e.op e.result ((new p).after (a ++ [e.op])) ∧
      ((new p).after (a ++ [e.op])).history b = ys := by
  obtain ⟨a, b, rfl, ha, hb⟩ := history_split _ _ _ _ h
  cases b with
  | nil => cases hb
  | cons op b =>
    rw [history_cons] at hb
    obtain ⟨he, hys⟩ := List.cons.inj hb
    subst he
    refine ⟨a, b, rfl, rfl, ?_, ?_⟩
    · rw [after_snoc]
      exact move_step _ op
    · rw [after_snoc]
      exact hys

/-! ## the whole of it -/

/-- the end of a run that has the history `h` and came to `m` -/
structure ClosedOnce (h : History) (m : Machine) : Prop where
  /-- a closed output refuses every operation and stays as it is -/
  frozen : m.phase.isTerminal = true → ∀ ops,
    m.after ops = m ∧ ∀ e ∈ m.history ops, e.op ∈ ops ∧ e.result = refusal e.op
  /-- between two attempts the machine takes no word about a source, and stays as it is -/
  waiting : m.phase = .retrying → ∀ ops, (∀ op ∈ ops, op.isWord = true) →
    m.after ops = m ∧ ∀ e ∈ m.history ops, e.result = .directive .nothing
  /-- a step that closes the output is a cancel, or its answer says in which phase -/
  closed : ∀ op, m.phase.isTerminal = false → (m.step op).2.phase.isTerminal = true →
    op = .cancel ∧ (m.step op).2.phase = .cancelled ∨
    (m.step op).1.closing? = some (m.step op).2.phase
  /-- an answer that closes the output is given to an open machine, and closes it -/
  answered : ∀ op ph, (m.step op).1.closing? = some ph →
    m.phase.isTerminal = false ∧ (m.step op).2.phase = ph ∧ ph.isTerminal = true
  /-- one answer has closed an output that was not cancelled -/
  closings : h.countP Event.isClosing = m.phase.isAnswered.toNat
  closings_le : h.countP Event.isClosing ≤ 1
  /-- nothing is handed out, and nothing closes the output, after an answer that closed it -/
  last : ∀ xs e ys, h = xs ++ e :: ys → e.isClosing = true →
    ∀ e' ∈ ys, e'.isClosing = false ∧ e'.isForward = false
  /-- nor after a cancel that found it open, and nothing closed it before that -/
  cancelled : ∀ xs e ys, h = xs ++ e :: ys → e.op = .cancel → e.phase.isTerminal = false →
    (∀ e' ∈ ys, e'.isClosing = false ∧ e'.isForward = false) ∧ h.countP Event.isClosing = 0

/-- **Every run of a new machine closes its output at most once, and for good.** -/
theorem closed_once (p : Policy) (ops : List Op) :
    ClosedOnce ((new p).history ops) ((new p).after ops) := by
  have hf := flagged_after p ops
  have hcount := closings_after p ops
  refine ⟨?_, ?_, ?_, ?_, hcount, ?_, ?_, ?_⟩
  · intro h more
    exact refused_run _ more fun op _ => isRefused_of_terminal h op
  · intro hp more hw
    obtain ⟨hafter, hall⟩ := refused_run ((new p).after ops) more fun op hop =>
      isRefused_of_retrying hp (hf.pending_of_retrying hp) op (hw op hop)
    refine ⟨hafter, fun e he => ?_⟩
    obtain ⟨hop, hr⟩ := hall e he
    rw [hr, refusal_of_isWord (hw e.op hop)]
  · intro op ho hc
    rcases closing?_of_closed (move_step _ op) ho hc with ⟨hop, -, hp⟩ | h
    · exact .inl ⟨hop, hp⟩
    · exact .inr h
  · exact fun op ph h => closed_of_closing? (move_step _ op) h
  · rw [hcount]
    exact Bool.toNat_le _
  · intro xs e ys h hc
    obtain ⟨a, b, -, -, hm, hys⟩ := event_split p ops xs ys e h
    obtain ⟨ph, hph⟩ := Option.isSome_iff_exists.mp hc
    obtain ⟨-, hp, ht⟩ := closed_of_closing? hm hph
    rw [← hys]
    exact quiet_of_closed (by rw [hp, ht]) b
  · intro xs e ys h hop hopen
    obtain ⟨a, b, hops, hphase, hm, hys⟩ := event_split p ops xs ys e h
    rw [hphase] at hopen
    have hp := phase_of_cancel hm hop hopen
    have hc : ((new p).after (a ++ [e.op])).phase.isTerminal = true := by rw [hp]; rfl
    refine ⟨by rw [← hys]; exact quiet_of_closed hc b, ?_⟩
    have hend := (refused_run _ b fun op _ => isRefused_of_terminal hc op).1
    rw [hcount, hops, List.append_cons, after_append, hend, hp]
    rfl

end Refetch

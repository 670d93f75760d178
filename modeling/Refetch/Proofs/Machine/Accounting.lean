import Refetch.Bytes
import Refetch.Proofs.Machine.Move
/-!
# The books of the retry machine

What the fields of a machine say about its history, after every run:

* `Counted`           the counts and the chunks held back;
* `Flagged`           the two flags;
* `within_after`      no more is held back than the ceiling allows;
* `Consistent`        all of it, field by field;
* `consistent_after`  every run of a new machine keeps its books.

The counts saturate, and a failed attempt keeps its count until the next one begins.
-/

namespace Refetch

open Machine

/-! ## events that take no chunk -/

theorem taken_of_no_chunk (ph : Phase) (op : Op) (r : Result) (h : op.isChunk = false) :
    (⟨ph, op, r⟩ : Event).taken = [] := by
  cases op with
  | chunk c => cases h
  | finish => cases ph <;> rfl
  | failure _ _ => cases ph <;> rfl
  | begin => cases ph <;> rfl
  | fail _ => cases ph <;> rfl
  | cancel => cases ph <;> rfl

theorem taken_refused (m : Machine) (op : Op) (h : m.isRefused op = true) :
    (⟨m.phase, op, refusal op⟩ : Event).taken = [] := by
  cases op with
  | chunk c =>
    have hr : m.isReading = false := by simpa [isRefused] using h
    cases hp : m.phase with
    | buffering => simp [isReading, hp] at hr
    | streaming => simp [isReading, hp] at hr
    | _ => rfl
  | _ => exact taken_of_no_chunk _ _ _ rfl

theorem isBegin_refusal (ph : Phase) (op : Op) : (⟨ph, op, refusal op⟩ : Event).isBegin = false := by
  cases op <;> rfl

theorem isRetry_refusal (ph : Phase) (op : Op) : (⟨ph, op, refusal op⟩ : Event).isRetry = false := by
  cases op <;> rfl

theorem given_refusal (ph : Phase) (op : Op) : (⟨ph, op, refusal op⟩ : Event).given = [] := by
  cases op <;> rfl

theorem accepted_quiet (h : History) (e : Event) (hb : e.isBegin = false) (ht : e.taken = []) :
    accepted (h ++ [e]) = accepted h := by
  rw [accepted_snoc h e hb, ht, List.append_nil]

/-! ## the counts -/

/-- the counts of a machine and the chunks it holds back, against its history -/
structure Counted (h : History) (m : Machine) : Prop where
  received : m.received = byteCount (accepted h)
  held : m.held = if m.phase = .buffering then accepted h else []
  buffered : m.buffered = if m.phase = .buffering then m.received else 0

namespace Counted

variable {h : History} {m : Machine}

theorem held_buffering (hc : Counted h m) (hp : m.phase = .buffering) : m.held = accepted h := by
  rw [hc.held, if_pos hp]

theorem held_other (hc : Counted h m) (hp : m.phase ≠ .buffering) : m.held = [] := by
  rw [hc.held, if_neg hp]

theorem buffered_buffering (hc : Counted h m) (hp : m.phase = .buffering) :
    m.buffered = m.received := by
  rw [hc.buffered, if_pos hp]

theorem new (p : Policy) : Counted [] (.new p) := ⟨rfl, rfl, rfl⟩

/-- a machine that holds nothing back and has counted what came -/
theorem of_discarded {m' : Machine} (hr : m'.received = byteCount (accepted h))
    (hh : m'.held = []) (hb : m'.buffered = 0) (hp : m'.phase ≠ .buffering) : Counted h m' :=
  ⟨hr, by rw [hh, if_neg hp], by rw [hb, if_neg hp]⟩

/-- a move that takes no chunk and lets go of what is held back -/
theorem discard (hc : Counted h m) (e : Event) (m' : Machine) (hb : e.isBegin = false)
    (ht : e.taken = []) (hr : m'.received = m.received) (hh : m'.held = []) (hz : m'.buffered = 0)
    (hp : m'.phase ≠ .buffering) : Counted (h ++ [e]) m' := by
  refine of_discarded ?_ hh hz hp
  rw [hr, hc.received, accepted_quiet h e hb ht]

theorem move {op : Op} {r : Result} {m' : Machine} (hc : Counted h m) (hm : Move m op r m') :
    Counted (h ++ [⟨m.phase, op, r⟩]) m' := by
  cases hm with
  | hold c hp fits =>
    have ha : accepted (h ++ [⟨m.phase, .chunk c, .directive .nothing⟩]) = accepted h ++ [c] := by
      rw [accepted_snoc _ _ rfl, hp]
      rfl
    have hr : (m.holding c).received = byteCount (accepted h ++ [c]) := by
      rw [byteCount_snoc, ← hc.received]
      rfl
    refine ⟨by rw [ha, hr], ?_, ?_⟩
    · rw [ha, if_pos (show (m.holding c).phase = .buffering from hp), ← hc.held_buffering hp]
      rfl
    · rw [if_pos (show (m.holding c).phase = .buffering from hp)]
      show addCount m.buffered c.length = addCount m.received c.length
      rw [hc.buffered_buffering hp]
  | outgrow c hp beyond =>
    refine of_discarded ?_ rfl rfl (by simp [streaming])
    rw [accepted_snoc _ _ rfl, hp]
    show addCount m.received c.length = byteCount (accepted h ++ [c])
    rw [byteCount_snoc, ← hc.received]
  | pass c hp =>
    have hn : m.phase ≠ .buffering := by rw [hp]; simp
    refine of_discarded ?_ (hc.held_other hn) (by rw [show (m.receive c.length).buffered = m.buffered
      from rfl, hc.buffered, if_neg hn]) hn
    rw [accepted_snoc _ _ rfl, hp]
    show addCount m.received c.length = byteCount (accepted h ++ [c])
    rw [byteCount_snoc, ← hc.received]
  | finish hr =>
    exact hc.discard _ _ rfl (taken_of_no_chunk _ _ _ rfl) rfl rfl rfl (by simp)
  | giveUp cause aborted e ho idle why =>
    exact hc.discard _ _ rfl (taken_of_no_chunk _ _ _ rfl) rfl rfl rfl (by simp [failed])
  | retry cause ho idle fits left =>
    exact hc.discard _ _ rfl (taken_of_no_chunk _ _ _ rfl) rfl rfl rfl (by simp [awaiting])
  | begin hp fits =>
    have ha := accepted_begin h ⟨m.phase, .begin, .began true⟩ rfl
    exact ⟨by rw [ha]; rfl, by rw [ha, ite_self]; rfl, rfl⟩
  | fail e ho =>
    exact hc.discard _ _ rfl (taken_of_no_chunk _ _ _ rfl) rfl rfl rfl (by simp [failed])
  | cancel ho =>
    exact hc.discard _ _ rfl (taken_of_no_chunk _ _ _ rfl) rfl rfl rfl (by simp)
  | refuse op hr =>
    have ha := accepted_quiet h _ (isBegin_refusal m.phase op) (taken_refused m op hr)
    exact ⟨by rw [ha, hc.received], by rw [ha, hc.held], hc.buffered⟩

end Counted

theorem counted_after (p : Policy) (ops : List Op) :
    Counted ((new p).history ops) ((new p).after ops) :=
  after_induction p (.new p) (fun _ _ _ _ _ hc hm => hc.move hm) ops

/-! ## the flags -/

/-- the flag of a pending retry, by the phase and by the phase the output was closed from -/
def Machine.pendingFrom (m : Machine) (before : Option Phase) : Bool :=
  match m.phase with
  | .buffering | .streaming | .completed => false
  | .retrying => true
  | .failed | .cancelled => before == some .retrying

/-- the flags of a machine, against its history -/
structure Flagged (h : History) (m : Machine) : Prop where
  streaming : m.phase = .streaming → m.overflowed = true
  within : m.phase = .buffering ∨ m.phase = .retrying → m.overflowed = false
  called : m.retryPending = retryCalled h
  phased : m.retryPending = m.pendingFrom (closedFrom h)

namespace Flagged

variable {h : History} {m : Machine}

theorem new (p : Policy) : Flagged [] (.new p) := ⟨by simp [Machine.new], fun _ => rfl, rfl, rfl⟩

theorem pending_of_retrying (hf : Flagged h m) (hp : m.phase = .retrying) :
    m.retryPending = true := by
  rw [hf.phased, pendingFrom, hp]

theorem idle_of_reading (hf : Flagged h m) (hr : m.isReading = true) : m.retryPending = false := by
  rw [hf.phased]
  cases hp : m.phase <;> simp_all [pendingFrom, isReading]

/-- an open machine has a retry pending just when it stands between two attempts -/
theorem pending_of_open (hf : Flagged h m) (ho : m.phase.isTerminal = false) :
    m.retryPending = (some m.phase == some .retrying) := by
  rw [hf.phased]
  cases hp : m.phase <;> simp_all [pendingFrom, Phase.isTerminal]

/-- a move that closes the output without a word about retries -/
theorem close (hf : Flagged h m) (e : Event) (m' : Machine) (hb : e.isBegin = false)
    (hr : e.isRetry = false) (he : e.phase = m.phase) (ho : m.phase.isTerminal = false)
    (hp : m'.phase = .failed ∨ m'.phase = .cancelled) (hq : m'.retryPending = m.retryPending) :
    Flagged (h ++ [e]) m' := by
  refine ⟨?_, ?_, ?_, ?_⟩
  · intro h'
    rcases hp with hp | hp <;> rw [hp] at h' <;> cases h'
  · intro h'
    rcases hp with hp | hp <;> rw [hp] at h' <;> simp at h'
  · rw [hq, hf.called, retryCalled_snoc h e hb, hr, Bool.or_false]
  · rw [hq, closedFrom_open h e (by rw [he, ho]), he, hf.pending_of_open ho]
    rcases hp with hp | hp <;> rw [pendingFrom, hp]

theorem move {op : Op} {r : Result} {m' : Machine} (hf : Flagged h m) (hm : Move m op r m') :
    Flagged (h ++ [⟨m.phase, op, r⟩]) m' := by
  cases hm with
  | hold c hp fits =>
    have hr : m.isReading = true := by simp [isReading, hp]
    have idle := hf.idle_of_reading hr
    refine ⟨?_, fun _ => hf.within (.inl hp), ?_, ?_⟩
    · intro h'
      rw [show (m.holding c).phase = m.phase from rfl, hp] at h'
      cases h'
    · rw [retryCalled_snoc _ _ rfl, ← hf.called]
      exact (Bool.or_false _).symm
    · show m.retryPending = _
      rw [idle, pendingFrom, show (m.holding c).phase = .buffering from hp]
  | outgrow c hp beyond =>
    have hr : m.isReading = true := by simp [isReading, hp]
    refine ⟨fun _ => rfl, fun h' => by simp [Machine.streaming] at h', ?_, hf.idle_of_reading hr⟩
    rw [retryCalled_snoc _ _ rfl, ← hf.called]
    exact (Bool.or_false _).symm
  | pass c hp =>
    have hr : m.isReading = true := by simp [isReading, hp]
    have idle := hf.idle_of_reading hr
    refine ⟨hf.streaming, hf.within, ?_, ?_⟩
    · rw [retryCalled_snoc _ _ rfl, ← hf.called]
      exact (Bool.or_false _).symm
    · show m.retryPending = _
      rw [idle, pendingFrom, show (m.receive c.length).phase = .streaming from hp]
  | finish hr =>
    refine ⟨by simp, by simp, ?_, hf.idle_of_reading hr⟩
    rw [retryCalled_snoc _ _ rfl, ← hf.called]
    exact (Bool.or_false _).symm
  | giveUp cause aborted e ho idle why =>
    exact hf.close _ _ rfl rfl rfl ho (.inl rfl) rfl
  | retry cause ho idle fits left =>
    refine ⟨by simp [awaiting], fun _ => fits, ?_, rfl⟩
    rw [retryCalled_snoc _ _ rfl]
    exact (Bool.or_true _).symm
  | begin hp fits =>
    exact ⟨by simp [renewed], fun _ => fits, (retryCalled_begin h _ rfl).symm, rfl⟩
  | fail e ho => exact hf.close _ _ rfl rfl rfl ho (.inl rfl) rfl
  | cancel ho => exact hf.close _ _ rfl rfl rfl ho (.inr rfl) rfl
  | refuse op hr =>
    refine ⟨hf.streaming, hf.within, ?_, ?_⟩
    · rw [retryCalled_snoc _ _ (isBegin_refusal _ _), isRetry_refusal, Bool.or_false, hf.called]
    · cases ho : m.phase.isTerminal with
      | true => rw [closedFrom_closed _ _ ho, hf.phased]
      | false =>
        rw [hf.pending_of_open ho]
        cases hp : m.phase <;> simp_all [pendingFrom, Phase.isTerminal]

end Flagged

theorem flagged_after (p : Policy) (ops : List Op) :
    Flagged ((new p).history ops) ((new p).after ops) :=
  after_induction p (.new p) (fun _ _ _ _ _ hf hm => hf.move hm) ops

/-! ## the ceiling -/

theorem isOverCeiling_of_empty (m : Machine) (h : m.buffered = 0) : m.isOverCeiling = false := by
  rw [isOverCeiling, h]
  cases m.policy.ceiling <;> simp

theorem within_move {m : Machine} {op : Op} {r : Result} {m' : Machine}
    (hw : m.isOverCeiling = false) (hm : Move m op r m') : m'.isOverCeiling = false := by
  cases hm with
  | hold c hp fits => exact fits
  | pass c hp => exact hw
  | refuse op hr => exact hw
  | _ => exact isOverCeiling_of_empty _ rfl

theorem within_after (p : Policy) (ops : List Op) : ((new p).after ops).isOverCeiling = false :=
  after_induction (P := fun _ m => m.isOverCeiling = false) p (isOverCeiling_of_empty _ rfl)
    (fun _ _ _ _ _ hw hm => within_move hw hm) ops

theorem buffered_le_ceiling (m : Machine) (hw : m.isOverCeiling = false) (c : Nat)
    (hc : m.policy.ceiling = some c) : m.buffered ≤ c := by
  rw [isOverCeiling, hc] at hw
  exact Nat.le_of_not_lt (of_decide_eq_false hw)

/-! ## the whole of it -/

/-- the books of a machine that was made with the policy `p` and has the history `h` -/
structure Consistent (p : Policy) (h : History) (m : Machine) : Prop where
  /-- the bytes that the current attempt took in are counted, until the next one begins -/
  received : m.received = min countCap (accepted h).flatten.length
  /-- a buffering machine holds back all that its attempt took in -/
  held : m.phase = .buffering → m.held = accepted h
  buffered : m.phase = .buffering → m.buffered = m.received
  held_other : m.phase ≠ .buffering → m.held = []
  buffered_other : m.phase ≠ .buffering → m.buffered = 0
  ceiling : ∀ c, p.ceiling = some c → m.buffered ≤ c
  streaming : m.phase = .streaming → m.overflowed = true
  within : m.phase = .buffering ∨ m.phase = .retrying → m.overflowed = false
  /-- the guard is up from the call for a retry to the attempt that answers it -/
  called : m.retryPending = retryCalled h
  retrying : m.phase = .retrying → m.retryPending = true
  idle : m.phase = .buffering ∨ m.phase = .streaming ∨ m.phase = .completed → m.retryPending = false
  /-- the guard stays up only where the output was closed between two attempts -/
  left : m.phase = .failed ∨ m.phase = .cancelled →
    (m.retryPending = true ↔ closedFrom h = some .retrying)

/-- **Every run of a new machine keeps its books.** -/
theorem consistent_after (p : Policy) (ops : List Op) :
    Consistent p ((new p).history ops) ((new p).after ops) := by
  have hc := counted_after p ops
  have hf := flagged_after p ops
  refine ⟨hc.received, hc.held_buffering, hc.buffered_buffering, hc.held_other,
    fun hp => by rw [hc.buffered, if_neg hp], fun c he => ?_, hf.streaming, hf.within, hf.called,
    hf.pending_of_retrying, fun hp => ?_, fun hp => ?_⟩
  · exact buffered_le_ceiling _ (within_after p ops) c (by rw [after_policy, he])
  · rw [hf.phased]
    rcases hp with hp | hp | hp <;> rw [pendingFrom, hp]
  · rw [hf.phased]
    rcases hp with hp | hp <;> rw [pendingFrom, hp] <;> exact beq_iff_eq

end Refetch

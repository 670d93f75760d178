import Refetch.Proofs.Driver.Reference
/-!
# A driver through one attempt

What the steps of a session come to while one body is read:

* `Machine.holdingAt`, `Machine.streamingAt`, `Machine.awaitingAt`   the machine in attempt `k`;
* `Driver.standing`    a driver with what it holds, at one of its points;
* `leads_emit`         chunks are sent, the empty ones left out;
* `leads_streaming`    past the ceiling every chunk is sent as it comes;
* `leads_holding`, `leads_overflow`   below it chunks are held back, up to the first that outgrows it;
* `react_ending`       the end of the body is told as the attempt closes.
-/

namespace Refetch

/-! ## the machine in an attempt -/

namespace Machine

/-- a buffering machine in attempt `k` that holds these chunks back -/
def holdingAt (p : Policy) (k : Nat) (held : List Bytes) : Machine where
  policy := p
  phase := .buffering
  attempt := k
  held := held
  buffered := byteCount held
  received := byteCount held
  overflowed := false
  retryPending := false

/-- a streaming machine in attempt `k` after these chunks came -/
def streamingAt (p : Policy) (k : Nat) (got : List Bytes) : Machine where
  policy := p
  phase := .streaming
  attempt := k
  held := []
  buffered := 0
  received := byteCount got
  overflowed := true
  retryPending := false

/-- a machine that called for a retry after attempt `k` delivered these chunks -/
def awaitingAt (p : Policy) (k : Nat) (got : List Bytes) : Machine where
  policy := p
  phase := .retrying
  attempt := k
  held := []
  buffered := 0
  received := byteCount got
  overflowed := false
  retryPending := true

variable (p : Policy) (k : Nat)

theorem hold_holdingAt (held : List Bytes) (c : Bytes) :
    ((holdingAt p k held).receive c.length).hold c = holdingAt p k (held ++ [c]) := by
  simp only [holdingAt, receive, hold, byteCount_snoc]

theorem onChunk_fits (held : List Bytes) (c : Bytes) (h : p.outgrows (held ++ [c]) = false) :
    (holdingAt p k held).onChunk c = (.nothing, holdingAt p k (held ++ [c])) := by
  show (if (((holdingAt p k held).receive c.length).hold c).isOverCeiling then _ else _) = _
  rw [hold_holdingAt]
  exact if_neg (ne_true_of_eq_false h)

theorem onChunk_outgrows (held : List Bytes) (c : Bytes) (h : p.outgrows (held ++ [c]) = true) :
    (holdingAt p k held).onChunk c = (.forward (held ++ [c]), streamingAt p k (held ++ [c])) := by
  show (if (((holdingAt p k held).receive c.length).hold c).isOverCeiling then _ else _) = _
  rw [hold_holdingAt]
  exact if_pos h

theorem onChunk_streamingAt (got : List Bytes) (c : Bytes) :
    (streamingAt p k got).onChunk c = (.forward [c], streamingAt p k (got ++ [c])) := by
  simp only [onChunk, streamingAt, receive, byteCount_snoc]

theorem onFailure_exhausted (held : List Bytes) (cause : Cause) (h : p.maxAttempts ≤ k) :
    ((holdingAt p k held).onFailure cause false).1 = .fail (.exhausted k cause) := by
  show (if p.maxAttempts ≤ k then _ else _ : Directive × Machine).1 = _
  rw [if_pos h]
  rfl

theorem onFailure_retry (held : List Bytes) (cause : Cause) (h : ¬ p.maxAttempts ≤ k) :
    (holdingAt p k held).onFailure cause false = (.retry (k + 1) cause, awaitingAt p k held) := by
  show (if p.maxAttempts ≤ k then _ else _ : Directive × Machine) = _
  rw [if_neg h]
  rfl

end Machine

open Machine

/-! ## the driver at its points -/

/-- a driver of `a` with this machine, at this point, holding the rest of an attempt or nothing -/
def Driver.standing (a : Assignment Source) (m : Machine) (t : Option Attempt) (p : Point) :
    Driver Source where
  request := a.request
  context := a.context
  machine := m
  source := t.map Attempt.source
  promised := t.bind Attempt.promised
  point := p

open Driver

theorem worthSending_worthSending (cs : List Bytes) :
    worthSending (worthSending cs) = worthSending cs := by
  simp only [worthSending, List.filter_filter, Bool.and_self]

theorem sends_append (a b : List Bytes) : sends (a ++ b) = sends a ++ sends b := by
  simp only [sends, worthSending, List.filter_append, List.map_append]

section
variable (a : Assignment Source) (m : Machine) (t : Option Attempt) (w : Surroundings)

theorem emit_worthSending (d : Driver Source) (cs : List Bytes) (last : Bool) :
    d.emit cs last = d.emit (worthSending cs) last := by
  rw [emit, emit, worthSending_worthSending]

theorem leads_sending (last : Bool) (cs : List Bytes) (hw : worthSending cs = cs) (p : Point)
    (notes : List Note) :
    Session.Leads ⟨((standing a m t p).emit cs last).1, w, notes⟩
      ⟨((standing a m t p).emit [] last).1, w, notes ++ cs.map fun c => .sent (.ok c)⟩ := by
  induction cs generalizing p notes with
  | nil =>
    rw [List.map_nil, List.append_nil]
    exact .refl _
  | cons c cs ih =>
    have hcs : worthSending cs = cs := by
      have hall := List.filter_eq_self.mp hw
      exact List.filter_eq_self.mpr fun x hx => hall x (List.mem_cons_of_mem _ hx)
    have hgo : ((standing a m t p).emit (c :: cs) last).1
        = standing a m t (.sending c cs last) := by
      rw [emit, hw]
      rfl
    have hstep : Session.step ⟨standing a m t (.sending c cs last), w, notes⟩
        = ⟨((standing a m t (.sending c cs last)).emit cs last).1, w,
          notes ++ [.sent (.ok c)]⟩ := rfl
    rw [hgo, List.map_cons, List.append_cons]
    refine .step ?_
    rw [hstep]
    exact ih hcs (.sending c cs last) (notes ++ [.sent (.ok c)])

theorem leads_emit (last : Bool) (cs : List Bytes) (p : Point) (notes : List Note) :
    Session.Leads ⟨((standing a m t p).emit cs last).1, w, notes⟩
      ⟨((standing a m t p).emit [] last).1, w, notes ++ sends cs⟩ := by
  rw [emit_worthSending]
  exact leads_sending a m t w last (worthSending cs) (worthSending_worthSending cs) p notes

theorem leads_failing (e : StageError) (notes : List Note) :
    Session.Leads ⟨standing a m none (.failing e), w, notes⟩
      ⟨standing a m none .stopped, w, notes ++ [.sent (.error e)]⟩ :=
  .of_step rfl

end

/-! ## reading -/

section
variable (a : Assignment Source) (k : Nat) (w : Surroundings) (e : Ending) (promised : Option Nat)

theorem leads_streaming (cs got : List Bytes) (notes : List Note) :
    Session.Leads
      ⟨standing a (streamingAt a.policy k got) (some ⟨⟨cs, e⟩, promised⟩) .reading, w, notes⟩
      ⟨standing a (streamingAt a.policy k (got ++ cs)) (some ⟨⟨[], e⟩, promised⟩) .reading, w,
        notes ++ sends cs⟩ := by
  induction cs generalizing got notes with
  | nil =>
    rw [List.append_nil, show sends [] = [] from rfl, List.append_nil]
    exact .refl _
  | cons c cs ih =>
    have hread : Session.step
        ⟨standing a (streamingAt a.policy k got) (some ⟨⟨c :: cs, e⟩, promised⟩) .reading, w, notes⟩
        = ⟨((standing a (streamingAt a.policy k (got ++ [c])) (some ⟨⟨cs, e⟩, promised⟩)
          .reading).emit [c] false).1, w, notes⟩ := by
      show (⟨(Driver.onChunk _ c).1, w, notes⟩ : Session) = _
      rw [Driver.onChunk, show (Driver.machine _).onChunk c = _ from onChunk_streamingAt ..]
      rfl
    refine .step ?_
    rw [hread]
    refine (leads_emit a _ _ w false [c] .reading notes).trans ?_
    have hrest := ih (got ++ [c]) (notes ++ sends [c])
    rw [List.append_assoc, List.append_assoc, ← sends_append] at hrest
    exact hrest

theorem step_fits (held cs : List Bytes) (c : Bytes) (notes : List Note)
    (h : a.policy.outgrows (held ++ [c]) = false) :
    Session.step
      ⟨standing a (holdingAt a.policy k held) (some ⟨⟨c :: cs, e⟩, promised⟩) .reading, w, notes⟩
      = ⟨standing a (holdingAt a.policy k (held ++ [c])) (some ⟨⟨cs, e⟩, promised⟩) .reading, w,
        notes⟩ := by
  show (⟨(Driver.onChunk _ c).1, w, notes⟩ : Session) = _
  rw [Driver.onChunk, show (Driver.machine _).onChunk c = _ from onChunk_fits _ _ _ _ h]
  rfl

/-- a chunk that outgrows the ceiling is logged as an overflow first -/
theorem step_outgrows (held cs : List Bytes) (c : Bytes) (notes : List Note)
    (h : a.policy.outgrows (held ++ [c]) = true) :
    Session.step
      ⟨standing a (holdingAt a.policy k held) (some ⟨⟨c :: cs, e⟩, promised⟩) .reading, w, notes⟩
      = ⟨standing a (streamingAt a.policy k (held ++ [c])) (some ⟨⟨cs, e⟩, promised⟩)
        (.loggingOverflow (.forward (held ++ [c]))), w, notes⟩ := by
  show (⟨(Driver.onChunk _ c).1, w, notes⟩ : Session) = _
  rw [Driver.onChunk, show (Driver.machine _).onChunk c = _ from onChunk_outgrows _ _ _ _ h]
  rfl

/-! ### the first prefix that outgrows the ceiling -/

theorem find?_inits_here (f : List Bytes → Bool) (held cs : List Bytes) (h : f held = true) :
    (cs.inits.map (held ++ ·)).find? f = some held := by
  cases cs <;> simp [h]

theorem find?_inits_cons (f : List Bytes → Bool) (held cs : List Bytes) (c : Bytes)
    (h : f held = false) :
    ((c :: cs).inits.map (held ++ ·)).find? f = (cs.inits.map (held ++ [c] ++ ·)).find? f := by
  simp [h, Function.comp_def]

theorem leads_holding (cs held : List Bytes) (notes : List Note)
    (hh : a.policy.outgrows held = false)
    (h : (cs.inits.map (held ++ ·)).find? a.policy.outgrows = none) :
    Session.Leads
      ⟨standing a (holdingAt a.policy k held) (some ⟨⟨cs, e⟩, promised⟩) .reading, w, notes⟩
      ⟨standing a (holdingAt a.policy k (held ++ cs)) (some ⟨⟨[], e⟩, promised⟩) .reading, w,
        notes⟩ := by
  induction cs generalizing held with
  | nil =>
    rw [List.append_nil]
    exact .refl _
  | cons c cs ih =>
    rw [find?_inits_cons _ _ _ _ hh] at h
    have hc : a.policy.outgrows (held ++ [c]) = false := by
      cases hc : a.policy.outgrows (held ++ [c]) with
      | false => rfl
      | true => rw [find?_inits_here _ _ _ hc] at h; cases h
    refine .step ?_
    rw [step_fits a k w e promised held cs c notes hc, List.append_cons held c cs]
    exact ih (held ++ [c]) hc h

theorem leads_overflow (cs held pre : List Bytes) (notes : List Note)
    (hh : a.policy.outgrows held = false)
    (h : (cs.inits.map (held ++ ·)).find? a.policy.outgrows = some pre) :
    ∃ rest, held ++ cs = pre ++ rest ∧ Session.Leads
      ⟨standing a (holdingAt a.policy k held) (some ⟨⟨cs, e⟩, promised⟩) .reading, w, notes⟩
      ⟨standing a (streamingAt a.policy k pre) (some ⟨⟨rest, e⟩, promised⟩)
        (.loggingOverflow (.forward pre)), w, notes⟩ := by
  induction cs generalizing held with
  | nil => simp [hh] at h
  | cons c cs ih =>
    rw [find?_inits_cons _ _ _ _ hh] at h
    cases hc : a.policy.outgrows (held ++ [c]) with
    | true =>
      rw [find?_inits_here _ _ _ hc] at h
      cases h
      refine ⟨cs, List.append_cons held c cs, ?_⟩
      exact .of_step (step_outgrows a k w e promised held cs c notes hc)
    | false =>
      obtain ⟨rest, hr, hl⟩ := ih (held ++ [c]) hc h
      refine ⟨rest, by rw [List.append_cons, hr], .step ?_⟩
      rw [step_fits a k w e promised held cs c notes hc]
      exact hl

/-! ## the end of a body -/

/-- the end of a body is told as the attempt closes -/
theorem react_ending (m : Machine) (got : List Bytes) (hm : m.received = byteCount got)
    (now : Moment) :
    ((standing a m (some ⟨⟨[], e⟩, promised⟩) .reading).react now e.answer).1
      = match Attempt.close ⟨⟨got, e⟩, promised⟩ with
        | .clean =>
          ((standing a m.onEnd.2 (some ⟨⟨[], e⟩, promised⟩) .reading).apply m.onEnd.1).1
        | .failed cause => ((standing a m (some ⟨⟨[], e⟩, promised⟩) .reading).onFailure now cause).1
        | .brokeDown words => standing a m none (.failing (.internal words)) := by
  -- only a clean end looks at what was promised
  cases e with
  | failure f => rfl
  | breakdown words => rfl
  | clean =>
    cases promised with
    | none => rfl
    | some n =>
      show (if m.received < n then Driver.onFailure _ now (prematureEnd m.received n) else _ :
        Driver Source × Option Source).1 = _
      simp only [Attempt.close, hm]
      split <;> rfl

end

end Refetch

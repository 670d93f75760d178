import Refetch.Proofs.Driver.Posture
/-!
# What a driver lets go

What becomes of the source that a driver holds, and how a driver comes to its end:

* `Driver.Own`          the source is kept or let go;
* `Driver.Handled`      the same, with a body that comes;
* `handled_react`       nothing else becomes of them;
* `isDrained_react`     a source that has come to its end is not read again;
* `stopped_react`       a driver comes to its end when its consumer is gone, when its output is
                        complete, or when it has sent an error;
* `completed_react`     only the end of a source makes the output complete.
-/

namespace Refetch

open Machine

namespace Driver

variable {σ : Type}

/-! ## what becomes of the source -/

/-- the source is kept, or let go; nothing else of what the driver holds changes -/
inductive Own (d : Driver σ) : Driver σ × Option σ → Prop where
  | keep (m : Machine) (p : Point) : Own d ({ d with machine := m, point := p }, none)
  | letGo (m : Machine) (p : Point) :
      Own d ({ d with machine := m, source := none, promised := none, point := p }, d.source)

section
variable (d : Driver σ)

theorem own_quit : d.Own d.quit := .letGo _ _

theorem own_terminate (e : StageError) : d.Own (d.terminate e) := .letGo _ _

theorem own_emit (m : Machine) (cs : List Bytes) (last : Bool) :
    d.Own ({ d with machine := m }.emit cs last) := by
  unfold emit
  cases worthSending cs with
  | cons c rest => exact .keep m _
  | nil =>
    cases last with
    | true => exact .letGo m _
    | false => exact .keep m _

theorem own_apply (m : Machine) (r : Directive) : d.Own ({ d with machine := m }.apply r) := by
  cases r with
  | nothing => exact .keep m _
  | forward cs => exact own_emit d m cs false
  | finish cs => exact own_emit d m cs true
  | fail e => exact .letGo m _
  | retry n cause => exact .letGo m _

theorem own_onChunk (c : Bytes) : d.Own (d.onChunk c) := by
  unfold onChunk
  dsimp only
  split
  · exact .keep _ _
  · exact own_apply d _ _

theorem own_onFailure (now : Moment) (cause : Cause) : d.Own (d.onFailure now cause) := by
  unfold onFailure
  split
  · exact own_quit d
  · exact own_apply d _ _

theorem own_onEnd (now : Moment) : d.Own (d.onEnd now) := by
  unfold onEnd
  split
  · split
    · exact own_onFailure d now _
    · exact own_apply d _ _
  · exact own_apply d _ _

end

/-- what becomes of the source that the driver holds, and of a body that comes -/
inductive Handled (d : Driver σ) (a : Answer σ) : Driver σ × Option σ → Prop where
  | own {x : Driver σ × Option σ} (h : d.Own x) (hr : ∀ r, a ≠ .responded (.ok r)) : Handled d a x
  /-- no body comes, or it is let go at once -/
  | declined (r : Response σ) (m : Machine) (p : Point) (h : a = .responded (.ok r)) :
      Handled d a ({ d with machine := m, source := none, promised := none, point := p }, r.body)
  /-- the body of the next attempt -/
  | takenUp (r : Response σ) (body : σ) (m : Machine) (h : a = .responded (.ok r))
      (hb : r.body = some body) :
      Handled d a
        ({ d with
          machine := m
          source := some body
          promised := r.expectedLength d.request.method
          point := .reading }, none)

theorem handled_onResponse (d : Driver σ) (r : Response σ) (hm : d.machine.Awaits) :
    d.Handled (.responded (.ok r)) (d.onResponse r) := by
  unfold onResponse
  split
  case h_1 body hok hb =>
    rw [promote, beginAttempt_awaits hm]
    exact .takenUp r body _ rfl hb
  case h_2 => exact .declined r _ _ rfl

/-- a poised driver keeps what it holds or lets it go; a body that comes is taken up or let go.  A
response comes only to a driver that waits for one. -/
theorem handled_react {broke : Bool} {d : Driver σ} (h : d.Poised broke) (now : Moment)
    (a : Answer σ) (hfit : ∀ o, a = .responded o → d.point = .dispatching) :
    d.Handled a (d.react now a) := by
  have hr := reacts_react now d a
  generalize d.react now a = x at hr
  cases hr with
  | closed hp => exact .own (own_quit d) fun r h => by cases h
  | chunk c hp => exact .own (own_onChunk d c) fun r h => by cases h
  | ended hp => exact .own (own_onEnd d now) fun r h => by cases h
  | failed f hp => exact .own (own_onFailure d now _) fun r h => by cases h
  | brokeDown m hp => exact .own (.letGo _ _) fun r h => by cases h
  | overflowTaken r hp => exact .own (own_apply d d.machine r) fun r h => by cases h
  | retryTaken cause hp => exact .own (.keep _ _) fun r h => by cases h
  | logRefused c hp => exact .own (own_terminate d _) fun r h => by cases h
  | sent c rest last hp => exact .own (own_emit d d.machine rest last) fun r h => by cases h
  | refused c rest last hp => exact .own (own_quit d) fun r h => by cases h
  | elapsed hp => exact .own (.keep _ _) fun r h => by cases h
  | orphaned r hp hc => exact .declined r _ _ rfl
  | responded r hp ho => exact handled_onResponse d r (h.between (.inr (.inr hp))).2
  | unanswered f hp hc => exact .own (own_quit d) fun r h => by cases h
  | undispatched f hp ho => exact .own (own_terminate d _) fun r h => by cases h
  | errorSent e hp => exact .own (.keep _ _) fun r h => by cases h
  | errorRefused e hp => exact .own (.keep _ _) fun r h => by cases h
  | deaf _ hd => exact .own (.keep _ _) fun r ha => hd _ (hfit _ ha) ha

/-! ## the last of a source -/

/-- the driver will not read its source again: it has none, or sends the last chunks of it -/
def isDrained (d : Driver σ) : Prop := d.source = none ∨ ∃ c rest, d.point = .sending c rest true

theorem isDrained_emit_last (d : Driver σ) (cs : List Bytes) : (d.emit cs true).1.isDrained := by
  unfold emit
  cases worthSending cs with
  | cons c rest => exact .inr ⟨c, rest, rfl⟩
  | nil => exact .inl rfl

theorem isDrained_onFailure {d : Driver σ} (hm : d.machine.Reads) (now : Moment) (cause : Cause) :
    (d.onFailure now cause).1.isDrained := by
  unfold onFailure
  split
  · exact .inl rfl
  · dsimp only
    rcases (gave_onFailure hm cause now.aborted).2 with ⟨e, h⟩ | ⟨n, h⟩
    · rw [h]
      exact .inl rfl
    · rw [h]
      exact .inl rfl

theorem isDrained_onEnd {d : Driver σ} (hm : d.machine.Reads) (now : Moment) :
    (d.onEnd now).1.isDrained := by
  have hend : ({ d with machine := d.machine.onEnd.2 }.apply d.machine.onEnd.1).1.isDrained := by
    rw [(gave_onEnd hm).2]
    exact isDrained_emit_last _ _
  unfold onEnd
  split
  · split
    · exact isDrained_onFailure hm now _
    · exact hend
  · exact hend

/-- once its source has come to an end, a driver is done with it -/
theorem isDrained_react {broke : Bool} {d : Driver σ} (h : d.Poised broke) (hp : d.point = .reading)
    (now : Moment) (a : Answer σ) (ha : a = .ended ∨ ∃ f, a = .failed f) :
    (d.react now a).1.isDrained := by
  have hm := (h.reading hp).2
  rcases ha with rfl | ⟨f, rfl⟩
  · have he : d.react now .ended = d.onEnd now := by unfold react; rw [hp]
    rw [he]
    exact isDrained_onEnd hm now
  · have hf : d.react now (.failed f) = d.onFailure now f.normalize := by unfold react; rw [hp]
    rw [hf]
    exact isDrained_onFailure hm now _

/-- and it stays done with it until a body is taken up -/
theorem Own.isDrained {d : Driver σ} {x : Driver σ × Option σ} (h : d.Own x)
    (hs : d.source = none) : x.1.source = none := by
  cases h with
  | keep m p => exact hs
  | letGo m p => rfl

/-! ## the end of a driver -/

theorem stopped_emit {d : Driver σ} {cs : List Bytes} {last : Bool}
    (h : (d.emit cs last).1.point = .stopped) : last = true := by
  unfold emit at h
  cases hw : worthSending cs with
  | cons c rest => rw [hw] at h; cases h
  | nil =>
    cases last with
    | true => rfl
    | false => rw [hw] at h; cases h

theorem machine_emit (d : Driver σ) (cs : List Bytes) (last : Bool) :
    (d.emit cs last).1.machine = d.machine := by
  unfold emit
  cases worthSending cs <;> cases last <;> rfl

/-- a directive that ends the driver at once was to finish -/
theorem completed_of_apply {d : Driver σ} {r : Directive} (hm : d.machine.Gave r)
    (h : (d.apply r).1.point = .stopped) : (d.apply r).1.machine.phase = .completed := by
  cases r with
  | nothing => cases h
  | forward cs => cases stopped_emit h
  | finish cs =>
    rw [apply, machine_emit]
    exact hm
  | fail e => cases h
  | retry n cause => cases h

theorem point_terminate {d : Driver σ} (ho : d.machine.phase.isTerminal = false) (e : StageError) :
    (d.terminate e).1.point = .failing e := by
  rw [terminate, fail_open ho]
  rfl

theorem point_onResponse {d : Driver σ} (hm : d.machine.Awaits) (r : Response σ) :
    (d.onResponse r).1.point ≠ .stopped := by
  unfold onResponse
  split
  · rw [promote, beginAttempt_awaits hm]
    exact fun h => by cases h
  · rw [point_terminate hm.open]
    exact fun h => by cases h

theorem Poised.open_of_isLogging {broke : Bool} {d : Driver σ} (h : d.Poised broke)
    (hl : d.isLogging) : d.machine.phase.isTerminal = false := by
  rcases hl with ⟨r, hp⟩ | ⟨cause, hp⟩
  · rw [Poised, hp] at h
    exact (h.2.1.reads h.2.2).open
  · exact (h.between (.inl ⟨cause, hp⟩)).2.open

/-- the consumer is gone when the driver is told -/
def IsGone (now : Moment) (a : Answer σ) : Prop := now.closed = true ∨ a = .closed ∨ a = .refused

/-- a failure of the source ends a driver at once only when its consumer is gone -/
theorem closed_of_onFailure {d : Driver σ} (hm : d.machine.Reads) {now : Moment} {cause : Cause}
    (h : (d.onFailure now cause).1.point = .stopped) : now.closed = true := by
  unfold onFailure at h
  split at h
  · assumption
  · dsimp only at h
    rcases (gave_onFailure hm cause now.aborted).2 with ⟨e, hr⟩ | ⟨n, hr⟩
    · rw [hr] at h
      cases h
    · rw [hr] at h
      cases h

theorem completed_of_onEnd {d : Driver σ} (hm : d.machine.Reads) {now : Moment}
    (h : (d.onEnd now).1.point = .stopped) :
    now.closed = true ∨ (d.onEnd now).1.machine.phase = .completed := by
  have hend := completed_of_apply (d := { d with machine := d.machine.onEnd.2 }) (gave_onEnd hm).1
  unfold onEnd at h ⊢
  split at h
  · split at h
    · exact .inl (closed_of_onFailure hm h)
    · rw [if_neg ‹_›]
      exact .inr (hend h)
  · exact .inr (hend h)

/-- a driver comes to its end when its consumer is gone, when its output is complete, or when it
has sent an error -/
theorem stopped_react {broke : Bool} {d : Driver σ} (h : d.Poised broke) (now : Moment)
    (a : Answer σ) (hs : (d.react now a).1.point = .stopped) :
    d.point = .stopped ∨ IsGone now a ∨ (d.react now a).1.machine.phase = .completed ∨
      ((∃ e, d.point = .failing e) ∧ a = .sent) := by
  have hr := reacts_react now d a
  generalize d.react now a = x at hr hs ⊢
  cases hr with
  | closed hp => exact .inr (.inl (.inr (.inl rfl)))
  | chunk c hp =>
    have hgave := (gave_onChunk (h.reading hp).2 c).1
    unfold onChunk at hs ⊢
    dsimp only at hs ⊢
    split at hs
    · cases hs
    · rw [if_neg ‹_›]
      exact .inr (.inr (.inl (completed_of_apply hgave hs)))
  | ended hp =>
    rcases completed_of_onEnd (h.reading hp).2 hs with hc | hc
    · exact .inr (.inl (.inl hc))
    · exact .inr (.inr (.inl hc))
  | failed f hp => exact .inr (.inl (.inl (closed_of_onFailure (h.reading hp).2 hs)))
  | brokeDown m hp => cases hs
  | overflowTaken r hp =>
    rw [Poised, hp] at h
    exact .inr (.inr (.inl (completed_of_apply h.2.1 hs)))
  | retryTaken cause hp =>
    unfold goto at hs
    dsimp only at hs
    split at hs <;> cases hs
  | logRefused c hp =>
    rw [point_terminate (h.open_of_isLogging hp)] at hs
    cases hs
  | sent c rest last hp =>
    have hlast := stopped_emit hs
    subst hlast
    rw [Poised, hp] at h
    rw [machine_emit]
    exact .inr (.inr (.inl h.2))
  | refused c rest last hp => exact .inr (.inl (.inr (.inr rfl)))
  | elapsed hp => cases hs
  | orphaned r hp hc => exact .inr (.inl (.inl hc))
  | responded r hp ho => exact absurd hs (point_onResponse (h.between (.inr (.inr hp))).2 r)
  | unanswered f hp hc => exact .inr (.inl (.inl hc))
  | undispatched f hp ho =>
    rw [point_terminate (h.between (.inr (.inr hp))).2.open] at hs
    cases hs
  | errorSent e hp => exact .inr (.inr (.inr ⟨⟨e, hp⟩, rfl⟩))
  | errorRefused e hp => exact .inr (.inl (.inr (.inr rfl)))
  | deaf _ hd => exact .inl hs

/-! ## a complete output -/

theorem machine_apply (d : Driver σ) (r : Directive) : (d.apply r).1.machine = d.machine := by
  cases r with
  | forward cs => exact machine_emit d cs false
  | finish cs => exact machine_emit d cs true
  | _ => rfl

theorem completed_of_cancel {m : Machine} (h : m.cancel.phase = .completed) :
    m.phase = .completed := by
  unfold cancel at h
  split at h
  · exact h
  · cases h

/-- an error from outside leaves no open machine complete -/
theorem not_completed_terminate {d : Driver σ} (ho : d.machine.phase.isTerminal = false)
    (e : StageError) : (d.terminate e).1.machine.phase ≠ .completed := by
  rw [terminate, fail_open ho]
  exact Phase.noConfusion

theorem not_completed_onResponse {d : Driver σ} (hm : d.machine.Awaits) (r : Response σ) :
    (d.onResponse r).1.machine.phase ≠ .completed := by
  unfold onResponse
  split
  · rw [promote, beginAttempt_awaits hm]
    exact Phase.noConfusion
  · exact not_completed_terminate hm.open _

theorem not_completed_onFailure {d : Driver σ} (hm : d.machine.Reads) (now : Moment)
    (cause : Cause) : (d.onFailure now cause).1.machine.phase ≠ .completed := by
  have hopen := hm.open
  unfold onFailure
  split
  · intro h
    rw [completed_of_cancel h] at hopen
    cases hopen
  · obtain ⟨hgave, hr⟩ := gave_onFailure hm cause now.aborted
    rw [machine_apply]
    rcases hr with ⟨e, hr⟩ | ⟨n, hr⟩
    · rw [hr] at hgave
      exact fun h => Phase.noConfusion (hgave.symm.trans h)
    · rw [hr] at hgave
      exact fun h => Phase.noConfusion (hgave.retrying.symm.trans h)

theorem machine_onChunk (d : Driver σ) (c : Bytes) :
    (d.onChunk c).1.machine = (d.machine.onChunk c).2 := by
  unfold onChunk
  dsimp only
  split
  · rfl
  · exact machine_apply _ _

/-- only the end of a source makes the output complete -/
theorem completed_react {broke : Bool} {d : Driver σ} (h : d.Poised broke) (now : Moment)
    (a : Answer σ) (hc : (d.react now a).1.machine.phase = .completed) :
    a = .ended ∨ d.machine.phase = .completed := by
  have hr := reacts_react now d a
  generalize d.react now a = x at hr hc
  cases hr with
  | closed hp => exact .inr (completed_of_cancel hc)
  | chunk c hp =>
    obtain ⟨hgave, hon⟩ := gave_onChunk (h.reading hp).2 c
    have hopen := (hgave.reads hon).open
    rw [machine_onChunk] at hc
    rw [hc] at hopen
    cases hopen
  | ended hp => exact .inl rfl
  | failed f hp => exact absurd hc (not_completed_onFailure (h.reading hp).2 now _)
  | brokeDown m hp => exact .inr hc
  | overflowTaken r hp => exact .inr (machine_apply d r ▸ hc)
  | retryTaken cause hp => exact .inr hc
  | logRefused c hp => exact absurd hc (not_completed_terminate (h.open_of_isLogging hp) _)
  | sent c rest last hp => exact .inr (machine_emit d rest last ▸ hc)
  | refused c rest last hp => exact .inr (completed_of_cancel hc)
  | elapsed hp => exact .inr hc
  | orphaned r hp hclosed => exact .inr (completed_of_cancel hc)
  | responded r hp ho =>
    exact absurd hc (not_completed_onResponse (h.between (.inr (.inr hp))).2 r)
  | unanswered f hp hclosed => exact .inr (completed_of_cancel hc)
  | undispatched f hp ho =>
    exact absurd hc (not_completed_terminate (h.between (.inr (.inr hp))).2.open _)
  | errorSent e hp => exact .inr hc
  | errorRefused e hp => exact .inr hc
  | deaf _ hd => exact .inr hc

end Driver

end Refetch

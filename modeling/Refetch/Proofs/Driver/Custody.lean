import Refetch.Stage
import Refetch.Proofs.Driver.Marks
/-!
# What a driver holds, under every schedule

A driver and its machine stay in agreement, whatever its surroundings do and whenever its consumer
closes:

* `Assignment.ofResponse`   what a driver is started with for a first response;
* `Kept`         what holds of the driver after every turn;
* `Spoken`       an output that nobody has closed does not end without a word;
* `Upheld`       what is known at each point;
* `upheld_after` all of it holds under every schedule.
-/

namespace Refetch

open Machine Driver Duet

/-- what a driver is started with for a first response with this body -/
def Assignment.ofResponse {σ : Type} (p : Policy) (r : Request) (c : Context) (first : Response σ)
    (source : σ) : Assignment σ :=
  ⟨p, r, c, source, first.expectedLength r.method⟩

/-- what is left of a source after some chunks of it -/
def Source.IsRestOf (s whole : Source) : Prop := s.chunks <:+ whole.chunks ∧ s.ending = whole.ending

/-! ## what is kept -/

/-- what holds of a driver for `req` after every turn, against what the marks say -/
structure Kept (req : Request) (y : Tally) (d : Driver Source) : Prop where
  request : d.request = req
  poised : d.Poised y.broke
  /-- it holds what is left of the last body, with the length that was promised for it -/
  slot : ∀ s, d.source = some s →
    (∃ whole, y.response.body = some whole ∧ s.IsRestOf whole) ∧
      d.promised = y.response.expectedLength req.method
  counted : y.released + d.source.toList.length = y.arrived
  drained : y.spent = true → d.isDrained
  finished : d.machine.phase = .completed → y.spent = true

section
variable {req : Request} {y : Tally} {d : Driver Source}

theorem kept_start (p : Policy) (r : Request) (c : Context) (first : Response Source)
    (source : Source) :
    Kept r { response := first.withBody source } (.start (.ofResponse p r c first source)) where
  request := rfl
  poised := ⟨rfl, rfl, rfl⟩
  slot := by
    rintro s ⟨rfl⟩
    exact ⟨⟨source, rfl, List.suffix_refl _, rfl⟩, rfl⟩
  counted := rfl
  drained h := by cases h
  finished h := by cases h

/-- a source that a driver reads has not come to its end -/
theorem Kept.unspent (h : Kept req y d) {s : Source} (hp : d.point = .reading)
    (hs : d.source = some s) : y.spent = false := by
  refine Bool.eq_false_iff.mpr fun hspent => ?_
  rcases h.drained hspent with hn | ⟨c, rest, hsending⟩
  · rw [hn] at hs
    cases hs
  · rw [hp] at hsending
    cases hsending

theorem Kept.rest {c : Bytes} {cs : List Bytes} {e : Ending} (h : Kept req y d)
    (hp : d.point = .reading) (hs : d.source = some ⟨c :: cs, e⟩)
    (hpoised : ({ d with source := some ⟨cs, e⟩ } : Driver Source).Poised y.broke) :
    Kept req y { d with source := some ⟨cs, e⟩ } where
  request := h.request
  poised := hpoised
  slot := by
    obtain ⟨⟨whole, hbody, hrest, hending⟩, hpromised⟩ := h.slot _ hs
    rintro s ⟨rfl⟩
    exact ⟨⟨whole, hbody, (List.suffix_cons c cs).trans hrest, hending⟩, hpromised⟩
  counted := by
    have hcounted := h.counted
    rw [hs] at hcounted
    exact hcounted
  drained := by
    intro hspent
    rw [h.unspent hp hs] at hspent
    cases hspent
  finished := h.finished

variable {a : Answer Source} {x : Driver Source × Option Source} {closed : Bool}

theorem request_handled (hx : d.Handled a x) : x.1.request = d.request := by
  cases hx with
  | own hown hr => cases hown <;> rfl
  | declined r m p ha => rfl
  | takenUp r body m ha hb => rfl

/-- what a driver holds after it was told is left of the last body -/
theorem Kept.slot_handled (h : Kept req y d) (hx : d.Handled a x) (s : Source)
    (hs : x.1.source = some s) :
    (∃ whole, (y.add (.told a)).response.body = some whole ∧ s.IsRestOf whole) ∧
      x.1.promised = (y.add (.told a)).response.expectedLength req.method := by
  cases hx with
  | own hown hr =>
    rw [(y.add_told hr).1]
    cases hown with
    | keep m p => exact h.slot s hs
    | letGo m p => cases hs
  | declined r m p ha => cases hs
  | takenUp r body m ha hb =>
    obtain rfl : body = s := Option.some.inj hs
    subst ha
    rw [← h.request]
    exact ⟨⟨body, hb, List.suffix_refl _, rfl⟩, rfl⟩

/-- the source that a driver held before it was told, and a body that came, are held or let go -/
theorem Kept.counted_handled (h : Kept req y d) (hx : d.Handled a x)
    (hfit : a.Fits closed d.point) :
    y.released + x.2.toList.length + x.1.source.toList.length = (y.add (.told a)).arrived := by
  have hcounted := h.counted
  cases hx with
  | own hown hr =>
    rw [(y.add_told hr).2]
    cases hown with
    | keep m p => exact hcounted
    | letGo m p => exact hcounted
  | declined r m p ha =>
    subst ha
    -- a response comes to a driver that has let go all that came before
    rw [(h.poised.between (.inr (.inr hfit))).1] at hcounted
    exact congrArg (· + r.body.toList.length) hcounted
  | takenUp r body m ha hb =>
    subst ha
    rw [(h.poised.between (.inr (.inr hfit))).1] at hcounted
    show y.released + 0 + 1 = y.arrived + r.body.toList.length
    rw [← hcounted, hb]
    rfl

theorem Answer.Fits.dispatching {p : Point} (h : a.Fits closed p)
    (o : Except Failure (Response Source)) (ha : a = .responded o) : p = .dispatching := by
  subst ha
  exact h

/-- once it is done with its source, a driver stays so until a response comes -/
theorem isDrained_told {broke : Bool} (hd : d.Poised broke) (hdr : d.isDrained) (now : Moment)
    (hfit : a.Fits closed d.point) (hr : ∀ r, a ≠ .responded (.ok r)) :
    (d.react now a).1.isDrained := by
  rcases hdr with hs | ⟨c, rest, hp⟩
  · have hx := handled_react hd now a hfit.dispatching
    generalize d.react now a = x at hx
    cases hx with
    | own hown hr => exact .inl (hown.isDrained hs)
    | declined r m p ha => exact .inl rfl
    | takenUp r body m ha hb => exact absurd ha (hr _)
  · -- it still holds the source, but it only sends what is left to send
    unfold react
    rw [hp]
    cases a with
    | sent => exact isDrained_emit_last d rest
    | refused => exact .inl rfl
    | _ => exact .inr ⟨c, rest, hp⟩

theorem Kept.drained_react (h : Kept req y d) (now : Moment) (hfit : a.Fits closed d.point)
    (hspent : (y.add (.told a)).spent = true) : (d.react now a).1.isDrained := by
  have hkept (hs : y.spent = true) (hr : ∀ r, a ≠ .responded (.ok r)) :
      (d.react now a).1.isDrained := isDrained_told h.poised (h.drained hs) now hfit hr
  cases a with
  | ended => exact isDrained_react h.poised hfit now _ (.inl rfl)
  | failed f => exact isDrained_react h.poised hfit now _ (.inr ⟨f, rfl⟩)
  | responded o =>
    cases o with
    | ok r => cases hspent
    | error f => exact hkept hspent fun r hr => by cases hr
  | _ => exact hkept hspent fun r hr => by cases hr

/-- an output that is complete is so by the end of the last body -/
theorem Kept.finished_react (h : Kept req y d) (now : Moment) (hfit : a.Fits closed d.point)
    (hc : (d.react now a).1.machine.phase = .completed) : (y.add (.told a)).spent = true := by
  rcases completed_react h.poised now a hc with rfl | hbefore
  · rfl
  · have hspent := h.finished hbefore
    cases a with
    | ended => rfl
    | failed f => rfl
    | responded o =>
      -- no transport is called for an output that is complete
      have hretrying := (h.poised.between (.inr (.inr hfit))).2.retrying
      rw [hbefore] at hretrying
      cases hretrying
    | _ => exact hspent

/-- whatever a driver is told, all of it is kept -/
theorem Kept.react (h : Kept req y d) (now : Moment) (hfit : a.Fits closed d.point)
    (item : Option Item) :
    Kept req (y.after (telling item a (d.react now a).2)) (d.react now a).1 := by
  have hx := handled_react h.poised now a hfit.dispatching
  rw [Tally.after_telling]
  exact
    { request := (request_handled hx).trans h.request
      poised := (y.broke_add_told a).symm ▸ poised_react h.poised now a
      slot := h.slot_handled hx
      counted := h.counted_handled hx hfit
      drained := h.drained_react now hfit
      finished := h.finished_react now hfit }

end

/-! ## every schedule -/

section
variable {req : Request} {y : Tally} {d d' : Duet} {t : Turn} {seen : List Mark}

/-- the driver that is told is the one before, or the one that has just read a chunk -/
theorem Kept.told {dr : Driver Source} {w : Surroundings} {o : Output} {a : Answer Source}
    (h : Kept req y d.driver) (ht : Tells d t seen dr w o a) : Kept req y dr := by
  have hpoised := ht.poised h.poised
  cases ht with
  | chunk c cs e hw hask => exact h.rest (ask_item hask).1 (ask_item hask).2.1 hpoised
  | _ => exact h

theorem Kept.turned (h : Kept req y d.driver) (ht : Turned d t seen d') :
    Kept req (y.after seen) d'.driver := by
  cases ht with
  | tells ht =>
    obtain ⟨item, hitem⟩ := ht.seen_eq
    rw [hitem]
    exact (h.told ht).react d.now ht.fits item
  | _ => exact h

end

/-! ## the last word -/

/-- an output that nobody has closed is complete, or has an error for its last item -/
def Worded (y : Tally) (d : Driver Source) : Prop :=
  d.machine.phase = .completed ∨ ∃ e, y.sent = some (.error e)

/-- a driver that has come to its end has left a word, unless its consumer is gone -/
def Spoken (y : Tally) (d : Duet) : Prop :=
  d.driver.point = .stopped → d.output.closed = true ∨ Worded y d.driver

section
variable {req : Request} {y : Tally} {d d' : Duet} {t : Turn} {seen : List Mark}

theorem worded_of_stopped {dr : Driver Source} {w : Surroundings} {o : Output} {a : Answer Source}
    (hk : Kept req y d.driver) (ht : Tells d t seen dr w o a)
    (hs : (dr.react d.now a).1.point = .stopped) :
    d.output.closed = true ∨
      Worded (y.after (seen ++ (d.tell dr w o a).1)) (dr.react d.now a).1 := by
  rcases stopped_react (hk.told ht).poised d.now a hs with hp | hgone | hcompleted | ⟨⟨e, hp⟩, ha⟩
  · exact absurd (ht.point_eq ▸ hp) ht.going
  · exact .inl (ht.gone hgone)
  · exact .inr (.inl hcompleted)
  · have hsent := y.after_telling (some (.error e)) a (dr.react d.now a).2
    rw [ht.seen_of_failing hp ha]
    exact .inr (.inr ⟨e, congrArg Tally.sent hsent⟩)

theorem Spoken.turned (h : Spoken y d) (hk : Kept req y d.driver) (ht : Turned d t seen d') :
    Spoken (y.after seen) d' := by
  intro hs
  cases ht with
  | tells ht => exact ht.ends_eq.1 ▸ worded_of_stopped hk ht hs
  | took => exact (next_ends_eq d.output).1 ▸ h hs
  | closed => exact .inl rfl
  | _ => exact h hs

end

/-! ## what is known at each point -/

/-- what is known of a driver for `r`, its consumer, and what was seen of them -/
structure Upheld (r : Request) (y : Tally) (d : Duet) : Prop where
  /-- it reads what is left of the last body, under the promise of its response -/
  reading : d.driver.point = .reading →
    (∃ s whole, d.driver.source = some s ∧ y.response.body = some whole ∧ s.IsRestOf whole) ∧
      d.driver.promised = y.response.expectedLength r.method ∧
      (d.driver.machine.phase = .buffering ∨ d.driver.machine.phase = .streaming) ∧
      d.driver.machine.retryPending = false
  /-- from the release of a source until the next one is taken up it holds nothing -/
  between : ((∃ cause, d.driver.point = .loggingRetry cause) ∨ d.driver.point = .pausing ∨
      d.driver.point = .dispatching) →
    d.driver.source = none ∧ d.driver.machine.phase = .retrying
  /-- of all bodies that came it let go every one but that which it holds -/
  held : y.released + d.driver.source.toList.length = y.arrived
  /-- it calls the transport when every body that came is gone -/
  called : ∀ t q c, .polled (.response q c) ∈ (d.turn t).1 → y.released = y.arrived
  /-- it never polls a source that has come to its end -/
  unspent : ∀ t s, .polled (.item s) ∈ (d.turn t).1 → y.spent = false
  stopped : d.driver.point = .stopped →
    d.driver.source = none ∧ (y.broke = false → d.driver.machine.phase.isTerminal = true)
  /-- a response that it can use begins an attempt -/
  begins : d.driver.point = .dispatching → d.driver.machine.beginAttempt.1 = true
  fails : (d.driver.isLogging ∨ d.driver.point = .dispatching) →
    ∀ e, (d.driver.machine.fail e).1 = some e
  ends : d.driver.point = .reading → d.driver.machine.onEnd.1 ≠ .nothing ∧
    ∀ cause aborted, (d.driver.machine.onFailure cause aborted).1 ≠ .nothing
  /-- the output is complete only when the last body has come to its end -/
  finished : d.driver.machine.phase = .completed → y.spent = true
  /-- the output ends after the driver, and never without a word -/
  ended : d.output.ended = true → d.driver.point = .stopped
  spoken : Spoken y d

section
variable {r : Request} {y : Tally} {d : Duet}

theorem upheld_of_kept (hk : Kept r y d.driver) (hd : Settled d) (hs : Spoken y d) :
    Upheld r y d where
  reading hp := by
    obtain ⟨hsome, hreads⟩ := hk.poised.reading hp
    obtain ⟨s, hsource⟩ := Option.isSome_iff_exists.mp hsome
    obtain ⟨⟨whole, hwhole⟩, hpromised⟩ := hk.slot s hsource
    have hphase : d.driver.machine.phase = .buffering ∨ d.driver.machine.phase = .streaming := by
      simpa [isReading] using hreads.reading
    exact ⟨⟨s, whole, hsource, hwhole⟩, hpromised, hphase, hreads.idle⟩
  between hp := ⟨(hk.poised.between hp).1, (hk.poised.between hp).2.retrying⟩
  held := hk.counted
  called t q c h := by
    have hp := (ask_response (ask_of_polled h)).1
    have hcounted := hk.counted
    rw [(hk.poised.between (.inr (.inr hp))).1] at hcounted
    exact hcounted
  unspent t s h := by
    obtain ⟨hp, hsource, -⟩ := ask_item (ask_of_polled h)
    exact hk.unspent hp hsource
  stopped hp := by
    obtain ⟨hsource, hend⟩ := hk.poised.closing (.inr hp)
    refine ⟨hsource, fun hbroke => hend.resolve_right ?_⟩
    rw [hbroke]
    exact Bool.false_ne_true
  begins hp := by rw [beginAttempt_awaits (hk.poised.between (.inr (.inr hp))).2]
  fails hp e := by
    have hopen : d.driver.machine.phase.isTerminal = false := by
      rcases hp with hp | hp
      · exact hk.poised.open_of_isLogging hp
      · exact (hk.poised.between (.inr (.inr hp))).2.open
    rw [fail_open hopen]
  ends hp := by
    have hreads := (hk.poised.reading hp).2
    constructor
    · rw [(gave_onEnd hreads).2]
      exact fun h => by cases h
    · intro cause aborted
      rcases (gave_onFailure hreads cause aborted).2 with ⟨e, h⟩ | ⟨n, h⟩
      · rw [h]
        exact fun h => by cases h
      · rw [h]
        exact fun h => by cases h
  finished := hk.finished
  ended := hd.ended
  spoken := hs

end

/-- Whatever the bodies, the log, the abort signals and the transport come to, and whenever the
consumer takes or closes, a driver and its machine agree at every point, it holds one body at most
and none once it has come to its end, and its output never ends without a word. -/
theorem upheld_after (p : Policy) (r : Request) (c : Context) (first : Response Source)
    (source : Source) (w : Surroundings) (ts : List Turn) :
    Upheld r
      (tally (first.withBody source) ((Duet.start (.ofResponse p r c first source) w).trace ts))
      ((Duet.start (.ofResponse p r c first source) w).after ts) := by
  have hall : _ ∧ _ := schedule_induction
    (P := fun tr d => Kept r (tally (first.withBody source) tr) d.driver ∧
      Spoken (tally (first.withBody source) tr) d)
    (d := Duet.start (.ofResponse p r c first source) w)
    ⟨kept_start p r c first source, fun hp => Point.noConfusion hp⟩
    (fun tr d t seen d' h ht => by
      rw [tally_append]
      exact ⟨h.1.turned ht, h.2.turned h.1 ht⟩) ts
  exact upheld_of_kept hall.1 (settled_after _ w ts) hall.2

end Refetch

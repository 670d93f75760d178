import Refetch.Proofs.Driver.Release
import Refetch.Proofs.Stage.Acts
/-!
# The entry of a stage

What a stage does with a request before it hands the response out:

* `HandedDown`       the context that a stage makes its calls with, beside that of its caller;
* `TooLong`          what a response promises is above the configured ceiling;
* `Guarded`          the body of a response gets a driver;
* `HandedOn`         what is handed out for a response, and the driver that was started for it;
* `Entered`          what comes of the one call that a stage makes;
* `Driver.toldAll`   a driver after it was told one answer after the other;
* `execute_calls`    where no request is refused, a stage makes its call and enters;
* `entry_decided`    a stage refuses a request without a call, or makes one call and enters so.

The driver makes its retries with the request and the context of that first call.
-/

namespace Refetch

open Program

/-- a context under the mark, with the identity and the signals of the caller's context `c` -/
structure HandedDown (c c' : Context) : Prop where
  active : c'.active = true
  requestId : c'.requestId = c.requestId
  abort : c'.abort = c.abort

theorem handedDown_wrapped (c : Context) : HandedDown c c.wrapped := ⟨rfl, rfl, rfl⟩

theorem HandedDown.eq_wrapped {c c' : Context} (h : HandedDown c c') : c' = c.wrapped := by
  obtain ⟨abort, active, id⟩ := c'
  obtain ⟨rfl, rfl, rfl⟩ := h
  rfl

/-- what a response promises is above the configured ceiling -/
def TooLong (config : Config) (r : Request) (resp : Response Feed) : Prop :=
  Http.mayHaveBody r.method resp.status = true ∧
    ∃ length ceiling, Http.declaredLength resp.fields = some length ∧
      config.ceiling = some ceiling ∧ ceiling.toNat < length

/-- the body of a response gets a driver -/
def Guarded (config : Config) (r : Request) (c : Context) (resp : Response Feed) : Prop :=
  c.active = false ∧ resp.ok = true ∧ resp.body.isSome = true ∧ ¬ TooLong config r resp

theorem tooLong_iff (config : Config) (r : Request) (resp : Response Feed) :
    TooLong config r resp ↔
      Http.exceeds (resp.expectedLength r.method) (Policy.ofConfig config).ceiling = true := by
  unfold TooLong Response.expectedLength Http.expectedLength Policy.ofConfig
  cases Http.mayHaveBody r.method resp.status with
  | false => simp [Http.exceeds]
  | true =>
    cases Http.declaredLength resp.fields with
    | none => simp [Http.exceeds]
    | some length =>
      cases config.ceiling with
      | none => simp [Http.exceeds]
      | some ceiling => simp [Http.exceeds]

/-! ## the errand of a driver -/

namespace Driver

variable {σ : Type} {d : Driver σ}

def toldAll (d : Driver σ) (told : List (Moment × Answer σ)) : Driver σ :=
  told.foldl (fun d x => (d.react x.1 x.2).1) d

/-- the request and the context of the calls that a driver makes -/
def errand (d : Driver σ) : Request × Context := (d.request, d.context)

theorem Own.errand {x : Driver σ × Option σ} (h : d.Own x) : x.1.errand = d.errand := by
  cases h <;> rfl

theorem errand_onResponse (d : Driver σ) (r : Response σ) :
    (d.onResponse r).1.errand = d.errand := by
  unfold onResponse
  split
  · unfold promote
    dsimp only
    split <;> rfl
  · exact (own_terminate d _).errand

theorem errand_react (d : Driver σ) (now : Moment) (a : Answer σ) :
    (d.react now a).1.errand = d.errand := by
  have hr := reacts_react now d a
  generalize d.react now a = x at hr
  cases hr with
  | closed hp => exact (own_quit d).errand
  | chunk c hp => exact (own_onChunk d c).errand
  | ended hp => exact (own_onEnd d now).errand
  | failed f hp => exact (own_onFailure d now _).errand
  | brokeDown m hp => rfl
  | overflowTaken r hp => exact (own_apply d d.machine r).errand
  | retryTaken cause hp => rfl
  | logRefused c hp => exact (own_terminate d _).errand
  | sent c rest last hp => exact (own_emit d d.machine rest last).errand
  | refused c rest last hp => exact (own_quit d).errand
  | elapsed hp => rfl
  | orphaned r hp hc => exact (own_quit d).errand
  | responded r hp ho => exact errand_onResponse d r
  | unanswered f hp hc => exact (own_quit d).errand
  | undispatched f hp ho => exact (own_terminate d _).errand
  | errorSent e hp => rfl
  | errorRefused e hp => rfl
  | deaf _ hd => rfl

theorem errand_toldAll (d : Driver σ) (told : List (Moment × Answer σ)) :
    (d.toldAll told).errand = d.errand := by
  induction told generalizing d with
  | nil => rfl
  | cons x told ih => exact (ih _).trans (errand_react d x.1 x.2)

/-- whatever it was told, a driver calls the transport on its errand -/
theorem call_of_toldAll (d : Driver σ) (told : List (Moment × Answer σ)) (closed : Bool)
    (r : Request) (c : Context) (h : (d.toldAll told).ask closed = .response r c) :
    (r, c) = d.errand := by
  have hask := asks_ask (d.toldAll told) closed
  rw [h] at hask
  cases hask with
  | response hp ho => exact errand_toldAll d told

end Driver

/-! ## what is handed out -/

/-- what is handed out for a response to the first call -/
structure HandedOn (config : Config) (r : Request) (c : Context) (resp : Response Feed)
    (acts : List Act) (d : Delivery) : Prop where
  ok : d.ok = resp.ok
  status : d.status = resp.status
  fields : d.fields = resp.fields
  absent : d.body = none ↔ resp.body = none
  wrapped : d.isWrapped = true ↔ Guarded config r c resp
  /-- a body that gets no driver is passed through, and no driver is started -/
  passed : ¬ Guarded config r c resp →
    d.body = resp.body.map .unwrapped ∧ started acts = []
  /-- the one driver that is started gets the body, the request, and the caller's context under the
  mark -/
  guarded : Guarded config r c resp →
    ∃ source out c', resp.body = some source ∧ d.body = some (.wrapped out) ∧ HandedDown c c' ∧
      started acts = [(⟨Policy.ofConfig config, r, c', source, resp.expectedLength r.method⟩, out)]

/-- what comes of the one call that a stage makes -/
structure Entered (config : Config) (r : Request) (c : Context) (o : Outcome) (acts : List Act)
    (res : Executed) : Prop where
  /-- the caller's request, with its identity and its signals, and the mark -/
  once : ∃ c', HandedDown c c' ∧ called acts = [⟨r, c', o⟩]
  failure : ∀ f, o = .error f → res = .error (.dispatch f.normalize) ∧ started acts = []
  response : ∀ resp, o = .ok resp → ∃ d, res = .ok d ∧ HandedOn config r c resp acts d
  /-- every later call of a driver that was started is like the first -/
  retries : ∀ a n, (a, n) ∈ started acts → ∀ told closed r' c',
    ((Driver.start a).toldAll told).ask closed = .response r' c' → called acts = [⟨r', c', o⟩]

section
variable {config : Config} {r : Request} {c : Context} {resp : Response Feed}

theorem eq_ofConfig_of_check {p : Policy} (h : Gate.check r config = .ok p) :
    p = Policy.ofConfig config := by
  unfold Gate.check at h
  split_ifs at h
  exact (Except.ok.inj h).symm

theorem assignment?_of_guarded (h : Guarded config r c resp) :
    ∃ source, resp.body = some source ∧
      Stage.assignment? (Policy.ofConfig config) r c.wrapped resp
        = some ⟨Policy.ofConfig config, r, c.wrapped, source, resp.expectedLength r.method⟩ := by
  obtain ⟨-, hok, hbody, hlong⟩ := h
  obtain ⟨source, hsource⟩ := Option.isSome_iff_exists.mp hbody
  rw [tooLong_iff] at hlong
  exact ⟨source, hsource, by simp [Stage.assignment?, hok, hsource, hlong]⟩

theorem assignment?_of_not_guarded (hc : c.active = false) (h : ¬ Guarded config r c resp) :
    Stage.assignment? (Policy.ofConfig config) r c.wrapped resp = none := by
  unfold Stage.assignment?
  cases hok : resp.ok with
  | false => rfl
  | true =>
    cases hbody : resp.body with
    | none => rfl
    | some source =>
      have hlong : TooLong config r resp := by
        by_contra hn
        exact h ⟨hc, hok, by rw [hbody]; rfl, hn⟩
      rw [tooLong_iff] at hlong
      simp [hlong]

theorem HandedOn.errand {acts : List Act} {d : Delivery} (h : HandedOn config r c resp acts d)
    {a : Assignment Feed} {n : OutputId} (ha : (a, n) ∈ started acts) :
    (Driver.start a).errand = (r, c.wrapped) := by
  by_cases hg : Guarded config r c resp
  · obtain ⟨source, out, c', -, -, hc', hs⟩ := h.guarded hg
    rw [hs] at ha
    cases List.mem_singleton.mp ha
    exact congrArg (Prod.mk r) hc'.eq_wrapped
  · rw [(h.passed hg).2] at ha
    cases ha

/-- the response as it came, where no driver is started -/
theorem handedOn_passed (h : ¬ Guarded config r c resp) (o : Outcome) :
    HandedOn config r c resp [.called r c.wrapped o] (.passed resp) where
  ok := rfl
  status := rfl
  fields := rfl
  absent := by simp [Delivery.passed]
  wrapped := by
    refine ⟨fun hw => ?_, fun hg => absurd hg h⟩
    cases hbody : resp.body <;> simp [Delivery.isWrapped, Delivery.passed, hbody] at hw
  passed _ := ⟨rfl, rfl⟩
  guarded hg := absurd hg h

/-- the response with the output of the driver that was started -/
theorem handedOn_guarded (h : Guarded config r c resp) (o : Outcome) {source : Feed}
    (hbody : resp.body = some source) (out : OutputId) :
    HandedOn config r c resp
      [.called r c.wrapped o, .started ⟨Policy.ofConfig config, r, c.wrapped, source,
        resp.expectedLength r.method⟩ out] (.guarded resp out) where
  ok := rfl
  status := rfl
  fields := rfl
  absent := by simp [Delivery.guarded, hbody]
  wrapped := ⟨fun _ => h, fun _ => rfl⟩
  passed hn := absurd h hn
  guarded _ := ⟨source, out, c.wrapped, hbody, rfl, handedDown_wrapped c, rfl⟩

theorem handedOn_deliver {acts : List Act} {res : Executed} (hc : c.active = false) (o : Outcome)
    (h : (Stage.deliver (Policy.ofConfig config) r c.wrapped resp).Does acts res) :
    called acts = [] ∧
      ∃ d, res = .ok d ∧ HandedOn config r c resp (.called r c.wrapped o :: acts) d := by
  unfold Stage.deliver at h
  by_cases hg : Guarded config r c resp
  · obtain ⟨source, hbody, ha⟩ := assignment?_of_guarded hg
    simp only [ha] at h
    obtain ⟨out, rest, rfl, hrest⟩ := does_spawn.mp h
    obtain ⟨rfl, rfl⟩ := does_done.mp hrest
    exact ⟨rfl, _, rfl, handedOn_guarded hg o hbody out⟩
  · simp only [assignment?_of_not_guarded hc hg] at h
    obtain ⟨rfl, rfl⟩ := does_done.mp h
    exact ⟨rfl, _, rfl, handedOn_passed hg o⟩

/-! ## the one call -/

theorem execute_active (hc : c.active = true) :
    Stage.execute config Stage.dispatch r c
      = .call r c fun o => Stage.received o fun resp => .done (.ok (.passed resp)) :=
  if_pos hc

theorem execute_checked {p : Policy} (hc : c.active = false) (hp : Gate.check r config = .ok p) :
    Stage.execute config Stage.dispatch r c
      = .call r c.wrapped fun o => Stage.received o (Stage.deliver p r c.wrapped) := by
  unfold Stage.execute
  rw [hc, hp]
  rfl

theorem execute_rejected {t : Transport} {e : Rejection} (hc : c.active = false)
    (he : Gate.check r config = .error e) :
    Stage.execute config t r c = .done (.error (.rejected e)) := by
  unfold Stage.execute
  rw [hc, he]
  rfl

theorem not_guarded_of_active (hc : c.active = true) : ¬ Guarded config r c resp := by
  intro hg
  rw [hg.1] at hc
  cases hc

theorem wrapped_of_active (hc : c.active = true) : c.wrapped = c := by
  obtain ⟨abort, active, id⟩ := c
  cases hc
  rfl

/-- what a call comes to decides what is handed out, if a response is handed on as it should be -/
theorem entered_of_received {o : Outcome} {acts : List Act} {res : Executed}
    {k : Response Feed → Program Executed}
    (hk : ∀ resp acts res, (k resp).Does acts res → called acts = [] ∧
      ∃ d, res = .ok d ∧ HandedOn config r c resp (.called r c.wrapped o :: acts) d)
    (h : (Stage.received o k).Does acts res) :
    Entered config r c o (.called r c.wrapped o :: acts) res := by
  cases o with
  | error f =>
    obtain ⟨rfl, rfl⟩ := does_done.mp h
    refine ⟨⟨c.wrapped, handedDown_wrapped c, rfl⟩, ?_, ?_, ?_⟩
    · rintro f' ⟨rfl⟩
      exact ⟨rfl, rfl⟩
    · rintro resp ⟨⟩
    · intro a n ha
      cases ha
  | ok resp =>
    obtain ⟨honce, d, rfl, hd⟩ := hk resp acts res h
    have hcalled : called (.called r c.wrapped (.ok resp) :: acts) = [⟨r, c.wrapped, .ok resp⟩] := by
      rw [called_call, honce]
    refine ⟨⟨c.wrapped, handedDown_wrapped c, hcalled⟩, ?_, ?_, ?_⟩
    · rintro f ⟨⟩
    · rintro resp' ⟨rfl⟩
      exact ⟨d, rfl, hd⟩
    · intro a n ha told closed r' c' hask
      have herrand := Driver.call_of_toldAll (Driver.start a) told closed r' c' hask
      rw [hd.errand ha] at herrand
      cases herrand
      exact hcalled

theorem Entered.called_wrapped {o : Outcome} {acts : List Act} {res : Executed}
    (h : Entered config r c o acts res) : called acts = [⟨r, c.wrapped, o⟩] := by
  obtain ⟨c', hc', honce⟩ := h.once
  rw [honce, hc'.eq_wrapped]

/-- at most one driver is started, with the settings of the stage, and none under the mark -/
theorem Entered.started {o : Outcome} {acts : List Act} {res : Executed}
    (h : Entered config r c o acts res) :
    started acts = [] ∨ c.active = false ∧ ∃ source promised out,
      started acts = [(⟨Policy.ofConfig config, r, c.wrapped, source, promised⟩, out)] := by
  cases o with
  | error f => exact .inl (h.failure f rfl).2
  | ok resp =>
    obtain ⟨d, -, hd⟩ := h.response resp rfl
    by_cases hg : Guarded config r c resp
    · obtain ⟨source, out, c', -, -, hc', hs⟩ := hd.guarded hg
      rw [hc'.eq_wrapped] at hs
      exact .inr ⟨hg.1, source, _, out, hs⟩
    · exact .inl (hd.passed hg).2

theorem Entered.isWrapped {o : Outcome} {acts : List Act} {res : Executed}
    (h : Entered config r c o acts res) (hc : c.active = true) :
    ∀ d, res = .ok d → d.isWrapped = false := by
  rintro d rfl
  cases o with
  | error f =>
    have hf := (h.failure f rfl).1
    cases hf
  | ok resp =>
    obtain ⟨d', hres, hd⟩ := h.response resp rfl
    cases hres
    exact Bool.eq_false_iff.mpr fun hw => not_guarded_of_active hc (hd.wrapped.mp hw)

theorem entered_of_active (hc : c.active = true) {o : Outcome} {acts : List Act} {res : Executed}
    (h : (Stage.received o fun resp => .done (.ok (.passed resp))).Does acts res) :
    Entered config r c o (.called r c.wrapped o :: acts) res := by
  refine entered_of_received (fun resp acts res h => ?_) h
  obtain ⟨rfl, rfl⟩ := does_done.mp h
  exact ⟨rfl, _, rfl, handedOn_passed (not_guarded_of_active hc) o⟩

theorem entered_of_checked {p : Policy} (hc : c.active = false) (hp : Gate.check r config = .ok p)
    {o : Outcome} {acts : List Act} {res : Executed}
    (h : (Stage.received o (Stage.deliver p r c.wrapped)).Does acts res) :
    Entered config r c o (.called r c.wrapped o :: acts) res := by
  obtain rfl := eq_ofConfig_of_check hp
  exact entered_of_received (fun resp acts res h => handedOn_deliver hc o h) h

end

/-- where no request is refused, the stage calls the transport first, and enters by its outcome -/
theorem execute_calls {config : Config} {r : Request} {c : Context}
    (h : c.active = true ∨ ∃ p, Gate.check r config = .ok p) :
    ∃ k, Stage.execute config Stage.dispatch r c = .call r c.wrapped k ∧
      ∀ o acts res, (k o).Does acts res →
        Entered config r c o (.called r c.wrapped o :: acts) res := by
  cases hc : c.active with
  | true =>
    refine ⟨_, ?_, fun o acts res hk => entered_of_active hc hk⟩
    rw [wrapped_of_active hc]
    exact execute_active hc
  | false =>
    rw [hc] at h
    obtain ⟨⟨⟩⟩ | ⟨p, hp⟩ := h
    exact ⟨_, execute_checked hc hp, fun o acts res hk => entered_of_checked hc hp hk⟩

/-- a stage over the transport refuses the request, or makes its call and enters -/
theorem entered_of_does {config : Config} {r : Request} {c : Context} {acts : List Act}
    {res : Executed} (h : (Stage.execute config Stage.dispatch r c).Does acts res) :
    (c.active = false ∧ acts = []) ∨ ∃ o, Entered config r c o acts res := by
  by_cases hentry : c.active = true ∨ ∃ p, Gate.check r config = .ok p
  · obtain ⟨k, hx, hk⟩ := execute_calls hentry
    rw [hx] at h
    obtain ⟨o, rest, rfl, hrest⟩ := does_call.mp h
    exact .inr ⟨o, hk o rest res hrest⟩
  · obtain ⟨hc, hp⟩ := not_or.mp hentry
    have hc := Bool.eq_false_iff.mpr hc
    cases hg : Gate.check r config with
    | ok p => exact absurd ⟨p, hg⟩ hp
    | error e =>
      rw [execute_rejected hc hg] at h
      exact .inl ⟨hc, (does_done.mp h).1⟩

/-- **The entry decision of a stage.**  Without the mark, a request that the gate rejects is refused
without a call.  In every other case there is one call, which may come to anything, and the stage
enters as its outcome says. -/
theorem entry_decided (config : Config) (r : Request) (c : Context) :
    (∀ e, c.active = false → Gate.check r config = .error e → ∀ acts res,
      (Stage.execute config Stage.dispatch r c).Does acts res
        ↔ acts = [] ∧ res = .error (.rejected e)) ∧
    ((c.active = true ∨ ∃ p, Gate.check r config = .ok p) →
      (∀ o, ∃ acts res, (Stage.execute config Stage.dispatch r c).Does acts res ∧
        Entered config r c o acts res) ∧
      ∀ acts res, (Stage.execute config Stage.dispatch r c).Does acts res →
        ∃ o, Entered config r c o acts res) := by
  constructor
  · intro e hc he acts res
    rw [execute_rejected hc he]
    exact does_done
  · intro hentry
    obtain ⟨k, hx, hk⟩ := execute_calls hentry
    rw [hx]
    constructor
    · intro o
      obtain ⟨acts, res, h⟩ := exists_does (k o)
      exact ⟨_, res, .call o h, hk o acts res h⟩
    · intro acts res h
      obtain ⟨o, rest, rfl, hrest⟩ := does_call.mp h
      exact ⟨o, hk o rest res hrest⟩

end Refetch

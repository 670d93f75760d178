import Refetch.Proofs.Driver.Chronicle
import Refetch.Proofs.Stage.Gate
import Refetch.Proofs.Wire.Copies
/-!
# What attempts send again

Every attempt with a request says the same, but a stream goes with the first one only:

* `ends_of_undispatched`   a driver whose first retry is refused ends with the refusal;
* `Replayed`               what any attempts with a request and its copies come to;
* `Wired`                  a driver whose calls are attempts with a request that has copies;
* `Wired.after`            the driver goes on, and others copy and attempt the request meanwhile;
* `spent_after`            once the stream is gone, every call of the driver is refused;
* `replayed_verbatim`      a request is sent again as it was, and a stream never.

The driver is not told that its stream is gone: it learns that from the transport, at its first
retry.
-/

namespace Refetch

open Driver Session

/-! ## a retry that is refused -/

/-- A first attempt fails below the ceiling, with budget left.  If the log takes the retry and no
message is sent then, the output ends with the reason and holds nothing else. -/
theorem ends_of_undispatched {a : Assignment Source} {w : Surroundings} {cause : Cause}
    {f : Failure} (hfits : a.policy.outgrows a.source.chunks = false)
    (hclose : Attempt.close ⟨a.source, a.promised⟩ = .failed cause)
    (hbudget : 2 ≤ a.policy.maxAttempts) (hlog : w.logs.head = .ok none)
    (habort : w.aborts.head = false) (hreply : w.replies.head = .ok (.error f)) :
    ∃ s, (∀ u, Ends (.start a w) u ↔ u = s) ∧ s.dispatches = 2 ∧
      s.sent = [.error (.dispatch f.normalize)] := by
  have hsome := isSome_overflow? a.policy a.source.chunks
  rw [hfits] at hsome
  have hnone : a.policy.overflow? a.source.chunks = none :=
    Option.isNone_iff_eq_none.mp (Option.isSome_eq_false_iff.mp hsome)
  have hleft : ¬ a.policy.maxAttempts ≤ 1 := by omega
  have hpassage : passage a 1 ⟨a.source, a.promised⟩ w =
      ⟨.logged (a.retryRecord 1 (byteCount a.source.chunks) cause) (.ok none) :: a.retryNotes,
        .ended (some (.dispatch f.normalize)) 2⟩ := by
    unfold passage
    simp only [hnone, hclose, failedPassage, habort, hleft, hlog, hreply]
    rfl
  have hseen := (Seen.logged (a.retryRecord 1 (byteCount a.source.chunks) cause)
    (.ok none)).append (.retryNotes a)
  exact ends_of_passage hpassage hseen

/-! ## what a driver hears -/

namespace Session

variable {s : Session}

/-- the session, with these replies to come -/
def hearing (s : Session) (replies : Stream' (Fallible (Except Failure (Response Source)))) :
    Session :=
  { s with around := { s.around with replies := replies } }

/-- replies matter only to a driver that calls the transport -/
theorem step_quiet (h : ∀ r c, s.driver.ask false ≠ .response r c)
    (later : Stream' (Fallible (Except Failure (Response Source)))) :
    (s.hearing later).step = s.step.hearing later ∧ s.step.around.replies = s.around.replies := by
  have hdriver : (s.hearing later).driver = s.driver := rfl
  unfold step
  rw [hdriver]
  cases hask : s.driver.ask false with
  | response r c => exact absurd hask (h r c)
  | item src =>
    obtain ⟨_ | ⟨c, cs⟩, e⟩ := src
    · exact ⟨rfl, rfl⟩
    · exact ⟨rfl, rfl⟩
  | log r | room i | pause d | word | nothing => exact ⟨rfl, rfl⟩

/-- a driver that calls the transport hears the next reply -/
theorem step_called {r : Request} {c : Context} (h : s.driver.ask false = .response r c)
    (later : Stream' (Fallible (Except Failure (Response Source)))) :
    (s.hearing (.cons s.around.replies.head later)).step = s.step.hearing later ∧
      s.step.around.replies = s.around.replies.tail := by
  have hdriver : (s.hearing (.cons s.around.replies.head later)).driver = s.driver := rfl
  unfold step
  rw [hdriver, h]
  exact ⟨rfl, rfl⟩

/-- a driver stays on its errand -/
theorem errand_step (s : Session) : s.step.driver.errand = s.driver.errand := by
  unfold step
  cases s.driver.ask false with
  | item src =>
    obtain ⟨_ | ⟨c, cs⟩, e⟩ := src
    · exact errand_react _ _ _
    · have hrest := errand_react ({ s.driver with source := some ⟨cs, e⟩ } : Driver Source)
        ⟨false, s.around.aborts.head⟩ (.chunk c)
      exact hrest
  | log r | room i | pause d | response r c => exact errand_react _ _ _
  | word | nothing => rfl

end Session

namespace Wire

variable {ν : Type}

/-! ## attempts -/

/-- what so many attempts with a request and its copies came to -/
structure Replayed (send : Network ν) (s : ν) (r : Request) (items : List StreamItem) (n : Nat)
    (c : Copies ν) : Prop where
  /-- the request and its copies are as they were -/
  unchanged : ∀ r' ∈ c.all, r' = r
  count : c.built.length = n
  /-- without a stream all build the same, and nothing is used up -/
  again : r.payload.isReplayable = true → c.cell = .new items ∧ ∀ x ∈ c.built, x = message r none
  /-- a stream goes with the first, and every later one is refused -/
  once : r.payload.isReplayable = false → ∀ x xs, c.built = x :: xs →
    c.cell = ⟨none⟩ ∧ x = message r (some items) ∧ ∀ y ∈ xs, y = .error .alreadyTaken
  /-- what was built is sent in its order, and a refusal sends nothing -/
  sent : c.sent = c.built.filterMap Except.toOption
  network : c.network = networkAfter send s c.sent
  verbatim : ∀ m ∈ c.sent, Verbatim r (some items) m
  streamed : r.payload.isReplayable = false → ∀ m ∈ c.sent, m.content = .streamed items
  refused : ∀ e, .error e ∈ c.built →
    Refused r (some items) e ∨ r.payload.isReplayable = false ∧ e = .alreadyTaken

section
variable {send : Network ν} {s : ν} {r : Request} {items : List StreamItem} {n : Nat} {c : Copies ν}

/-- an attempt builds what the first one builds, or a stream is gone -/
theorem mem_builds {x : Except Refusal Outgoing} (h : x ∈ builds r items n) :
    x = message r (some items) ∨ r.payload.isReplayable = false ∧ x = .error .alreadyTaken := by
  cases hr : r.payload.isReplayable with
  | true =>
    rw [builds_replayable hr] at h
    exact .inl (List.mem_replicate.mp h).2
  | false =>
    cases n with
    | zero => cases h
    | succ n =>
      rw [builds_stream hr] at h
      rcases List.mem_cons.mp h with hx | hx
      · exact .inl hx
      · exact .inr ⟨rfl, (List.mem_replicate.mp hx).2⟩

namespace Stands

theorem message_of_mem (h : Stands send s r items n c) {m : Outgoing} (hm : m ∈ c.sent) :
    message r (some items) = .ok m := by
  rw [h.sent, h.built] at hm
  obtain ⟨x, hx, hxm⟩ := List.mem_filterMap.mp hm
  rcases mem_builds hx with rfl | ⟨-, rfl⟩
  · cases hmessage : message r (some items) with
    | error e =>
      rw [hmessage] at hxm
      cases hxm
    | ok m' =>
      rw [hmessage] at hxm
      cases hxm
      rfl
  · cases hxm

theorem replayed (h : Stands send s r items n c) : Replayed send s r items n c where
  unchanged := h.copies
  count := by
    rw [h.built]
    cases n with
    | zero => rfl
    | succ n => rw [builds, List.length_cons, List.length_replicate]
  again hr := by
    rw [h.cell, h.built, cellAfter_replayable hr, builds_replayable hr,
      message_replayable hr none (some items)]
    exact ⟨rfl, fun x hx => (List.mem_replicate.mp hx).2⟩
  once hr x xs hb := by
    rw [h.built] at hb
    cases n with
    | zero => cases hb
    | succ n =>
      rw [builds_stream hr] at hb
      cases hb
      refine ⟨?_, rfl, fun y hy => (List.mem_replicate.mp hy).2⟩
      rw [h.cell, cellAfter_taken hr]
  sent := h.sent
  network := h.network
  verbatim m hm := verbatim_of_message (h.message_of_mem hm)
  streamed hr m hm := content_stream hr (h.message_of_mem hm)
  refused e he := by
    rw [h.built] at he
    rcases mem_builds he with he | ⟨hr, he⟩
    · exact .inl ((message_eq_error_iff r (some items) e).mp he.symm)
    · cases he
      exact .inr ⟨hr, rfl⟩

/-! ### a stream that is gone -/

/-- the first attempt took the stream, so the next one is refused -/
theorem refused (hr : r.payload.isReplayable = false) (h : Stands send s r items (n + 1) c) :
    (c.attempt send r).1 = refusal .alreadyTaken := by
  have hbuild : (build r c.cell).1 = .error .alreadyTaken := by
    rw [h.cell, cellAfter_taken hr, build_stream hr]
    exact message_taken hr
  rw [Copies.attempt_error hbuild]

theorem sent_eq (hr : r.payload.isReplayable = false) (h : Stands send s r items (n + 1) c)
    {m : Outgoing} (hm : message r (some items) = .ok m) : c.sent = [m] := by
  have hnone : ((List.replicate n (.error .alreadyTaken) : List (Except Refusal Outgoing)).filterMap
      Except.toOption) = [] := by
    refine List.filterMap_eq_nil_iff.mpr fun x hx => ?_
    rw [(List.mem_replicate.mp hx).2]
    rfl
  rw [h.sent, h.built, builds_stream hr, hm]
  show m :: _ = _
  rw [hnone]

/-- an attempt that gets a response is the first of a stream -/
theorem message_of_response (hr : r.payload.isReplayable = false) (h : Stands send s r items n c)
    {resp : Response Source} (hreply : (c.attempt send r).1 = .ok (.ok resp)) :
    ∃ m, message r (some items) = .ok m := by
  cases n with
  | succ n =>
    rw [h.refused hr] at hreply
    cases hreply
  | zero =>
    have hbuild : (build r c.cell).1 = message r (some items) := by
      rw [h.cell, cellAfter_zero, build_stream hr]
      rfl
    cases hm : message r (some items) with
    | ok m => exact ⟨m, rfl⟩
    | error e =>
      rw [Copies.attempt_error (hbuild.trans hm)] at hreply
      cases hreply

end Stands

end

/-! ## a driver on the network -/

/-- a driver whose calls are attempts with a request that has copies; replies that its surroundings
would give are not heard -/
structure Wired (ν : Type) where
  session : Session
  copies : Copies ν

/-- the driver goes on, or others copy and attempt its request -/
inductive WiredMove where
  | driver
  | others (m : CopyMove)

def WiredMove.isDriver : WiredMove → Bool
  | .driver => true
  | .others _ => false

def driven (ms : List WiredMove) : Nat := ms.countP WiredMove.isDriver

namespace Wired

/-- the driver's next step; a call is an attempt with its request -/
def step (send : Network ν) (w : Wired ν) : Wired ν :=
  match w.session.driver.ask false with
  | .response r _ =>
    let (reply, copies) := w.copies.attempt send r
    ⟨(w.session.hearing (.cons reply w.session.around.replies)).step, copies⟩
  | _ => { w with session := w.session.step }

def move (send : Network ν) (w : Wired ν) : WiredMove → Wired ν
  | .driver => w.step send
  | .others m => { w with copies := w.copies.step send m }

def after (send : Network ν) (w : Wired ν) (ms : List WiredMove) : Wired ν :=
  ms.foldl (move send) w

theorem after_snoc (send : Network ν) (w : Wired ν) (ms : List WiredMove) (m : WiredMove) :
    w.after send (ms ++ [m]) = (w.after send ms).move send m := List.foldl_append

end Wired

section
variable {send : Network ν} {start : ν} {r : Request} {items : List StreamItem}
  {later : Stream' Reply} {s : Session} {w : Wired ν}

/-- the stream is gone, and the driver goes on as in `s`, where every call is refused -/
structure Spent (send : Network ν) (start : ν) (r : Request) (items : List StreamItem)
    (later : Stream' Reply) (s : Session) (w : Wired ν) : Prop where
  session : w.session = s.hearing later
  refused : s.around.replies = Stream'.const (refusal .alreadyTaken)
  request : s.driver.request = r
  stands : ∃ n, Stands send start r items (n + 1) w.copies

theorem Spent.step (hr : r.payload.isReplayable = false)
    (h : Spent send start r items later s w) :
    Spent send start r items later s.step (w.step send) := by
  obtain ⟨n, hstands⟩ := h.stands
  have hdriver : w.session.driver = s.driver := by
    rw [h.session]
    rfl
  have hrequest : s.step.driver.request = r :=
    (congrArg Prod.fst s.errand_step).trans h.request
  unfold Wired.step
  rw [hdriver]
  cases hask : s.driver.ask false with
  | response r' c' =>
    have hr' : r' = r := by
      have hasks := Driver.asks_ask s.driver false
      rw [hask] at hasks
      cases hasks with
      | response hp ho => exact h.request
    obtain ⟨hstep, hreplies⟩ := Session.step_called hask later
    rw [h.refused] at hstep hreplies
    subst hr'
    refine ⟨?_, hreplies, hrequest, n + 1, hstands.attempt⟩
    show (w.session.hearing (.cons (w.copies.attempt send r').1 _)).step = _
    rw [hstands.refused hr, h.session]
    exact hstep
  | _ =>
    have hquiet : ∀ r' c', s.driver.ask false ≠ .response r' c' := by
      intro r' c' hcall
      rw [hask] at hcall
      cases hcall
    obtain ⟨hstep, hreplies⟩ := Session.step_quiet hquiet later
    refine ⟨?_, hreplies.trans h.refused, hrequest, n, hstands⟩
    show w.session.step = _
    rw [h.session]
    exact hstep

theorem Spent.others (h : Spent send start r items later s w) (m : CopyMove) :
    Spent send start r items later s { w with copies := w.copies.step send m } := by
  obtain ⟨n, hstands⟩ := h.stands
  have hmore : Stands send start r items (n + 1 + attempts [m]) (w.copies.step send m) :=
    hstands.step m
  rw [Nat.add_right_comm] at hmore
  exact ⟨h.session, h.refused, h.request, _, hmore⟩

/-- whatever others do meanwhile, the driver goes on as one whose calls are refused -/
theorem spent_after (hr : r.payload.isReplayable = false)
    (h : Spent send start r items later s w) (ms : List WiredMove) :
    Spent send start r items later (Session.step^[driven ms] s) (w.after send ms) := by
  induction ms using List.reverseRecOn with
  | nil => exact h
  | append_singleton ms m ih =>
    rw [Wired.after_snoc, driven, List.countP_append]
    cases m with
    | driver =>
      show Spent send start r items later (Session.step^[driven ms + 1] s) _
      rw [Function.iterate_succ_apply']
      exact ih.step hr
    | others m => exact ih.others m

end

/-! ## replay -/

/-- a response gets a driver, and its body fails below the ceiling -/
structure BodyFails (config : Config) (r : Request) (resp : Response Source) (src : Source)
    (cause : Cause) : Prop where
  ok : resp.ok = true
  body : resp.body = some src
  guarded : Http.exceeds (resp.expectedLength r.method) (Policy.ofConfig config).ceiling = false
  fits : (Policy.ofConfig config).outgrows src.chunks = false
  failed : Refetch.Attempt.close ⟨src, resp.expectedLength r.method⟩ = .failed cause

/-- the first response of a stage that lets unsafe requests through gets a driver -/
theorem BodyFails.execute {config : Config} {r : Request} {resp : Response Source} {src : Source}
    {cause : Cause} {ctx : Context} (h : BodyFails config r resp src cause)
    (hallowed : config.allowUnsafe = true) (hbudget : 0 < config.budget)
    (hctx : ctx.active = false) :
    ∃ k, Stage.execute config Stage.dispatch r ctx = .call r ctx.wrapped k ∧
      ∀ f, k (.ok ⟨resp.ok, resp.status, resp.fields, some f⟩)
        = .spawn ⟨.ofConfig config, r, ctx.wrapped, f, resp.expectedLength r.method⟩ fun out =>
          .done (.ok ⟨resp.ok, resp.status, resp.fields, some (.wrapped out)⟩) := by
  have hp : Gate.check r config = .ok (.ofConfig config) :=
    (check_eq_ok_iff r config _).mpr ⟨rfl, hbudget, .inl hallowed⟩
  refine ⟨_, execute_checked hctx hp, fun f => ?_⟩
  have hguarded : Refetch.Guarded config r ctx ⟨resp.ok, resp.status, resp.fields, some f⟩ := by
    refine ⟨hctx, h.ok, rfl, ?_⟩
    rw [tooLong_iff]
    exact Bool.eq_false_iff.mp h.guarded
  obtain ⟨source, hsource, hassignment⟩ := assignment?_of_guarded hguarded
  cases hsource
  show Stage.deliver _ _ _ _ = _
  unfold Stage.deliver
  rw [hassignment]
  rfl

/-- **Replay.**  However a request is copied and attempted, every attempt without a stream builds
the same message, which says what the request says, or is refused for the same reason, and the
request stays as it was.  A stream goes whole with the first attempt, and every later one is refused
before anything is sent.

So let a stage let a request with a stream through, at any moment of this, and let the body of its
first response fail below the ceiling, with a log that takes the retry and no abort.  However large
the budget is, and whatever others do with the request meanwhile, one message is all that is ever
sent, and after its second call the driver ends the output with the refusal. -/
theorem replayed_verbatim {ν : Type} (send : Network ν) (r : Request) (items : List StreamItem)
    (start : ν) (ms : List CopyMove) :
    let c := (Copies.start r items start).after send ms
    Replayed send start r items (attempts ms) c ∧
    ∀ (config : Config) (ctx : Context) (around : Surroundings) (resp : Response Source)
      (src : Source) (cause : Cause),
      r.payload.isReplayable = false → config.allowUnsafe = true → 0 < config.budget →
      ctx.active = false → (c.attempt send r).1 = .ok (.ok resp) →
      BodyFails config r resp src cause → around.logs.head = .ok none →
      around.aborts.head = false →
      (∃ k, Stage.execute config Stage.dispatch r ctx = .call r ctx.wrapped k ∧
        ∀ f, k (.ok ⟨resp.ok, resp.status, resp.fields, some f⟩)
          = .spawn ⟨.ofConfig config, r, ctx.wrapped, f, resp.expectedLength r.method⟩ fun out =>
            .done (.ok ⟨resp.ok, resp.status, resp.fields, some (.wrapped out)⟩)) ∧
      ∃ m s n, message r (some items) = .ok m ∧ m.content = .streamed items ∧
        s.driver.point = .stopped ∧ s.dispatches = 2 ∧
        s.sent = [.error (.dispatch (.foreign Refusal.alreadyTaken.text))] ∧
        ∀ moves, let w := (Wired.mk (.start (config.assignment r ctx.wrapped
            ⟨src, resp.expectedLength r.method⟩) around) (c.attempt send r).2).after send moves
          w.copies.sent = [m] ∧ w.copies.network = (send start m).2 ∧
            (n ≤ driven moves → w.session = s) := by
  intro c
  have hstands : Stands send start r items (attempts ms) c :=
    stands_after send r items start ms
  refine ⟨hstands.replayed, ?_⟩
  intro config ctx around resp src cause hr hallowed hbudget hctx hreply hfails hlog habort
  refine ⟨hfails.execute hallowed hbudget hctx, ?_⟩
  obtain ⟨m, hm⟩ := hstands.message_of_response hr hreply
  -- the same driver, where every call is refused
  let a := config.assignment r ctx.wrapped ⟨src, resp.expectedLength r.method⟩
  let heard : Session := (Session.start a around).hearing (Stream'.const (refusal .alreadyTaken))
  obtain ⟨s, hends, hcalls, hsent⟩ := ends_of_undispatched (a := a) (w := heard.around)
    (f := .foreign Refusal.alreadyTaken.text) hfails.fits hfails.failed
    (granted_ofConfig hbudget).two_le hlog habort rfl
  obtain ⟨⟨n, hn⟩, hstopped⟩ := (hends s).mpr rfl
  have hspent : Spent send start r items around.replies heard
      ⟨.start a around, (c.attempt send r).2⟩ :=
    ⟨rfl, rfl, rfl, attempts ms, hstands.attempt⟩
  refine ⟨m, s.hearing around.replies, n, hm, content_stream hr hm, hstopped, hcalls, hsent, ?_⟩
  intro moves w
  have hafter : Spent send start r items around.replies (Session.step^[driven moves] heard) w :=
    spent_after hr hspent moves
  obtain ⟨k, hk⟩ := hafter.stands
  have hone : w.copies.sent = [m] := hk.sent_eq hr hm
  have hnetwork : w.copies.network = (send start m).2 := by
    rw [hk.network, hone]
    rfl
  refine ⟨hone, hnetwork, fun hle => ?_⟩
  have hlast : Session.step^[driven moves] heard = s := by
    rw [← Nat.sub_add_cancel hle, Function.iterate_add_apply,
      show Session.step^[n] heard = s from hn]
    exact Session.iterate_stopped s hstopped _
  rw [← hlast]
  exact hafter.session

/-- a stream of two chunks is sent, and the answer is cut off after three bytes of eight; there is
budget for three retries, and the first of them is the last -/
theorem replayed_verbatim_cut :
    let r : Request := ⟨.post,
      ⟨"http", some ⟨"", "", .name "origin.test", none⟩, .steps ["up"], none, none⟩, [], .stream 0⟩
    let items : List StreamItem := [.ok [99, 104, 117, 110], .ok [107, 101, 100]]
    let src : Source := readSource ([97, 98, 99], false)
    let config : Config := { budget := 3, allowUnsafe := true }
    let around : Surroundings := ⟨.const (.ok none), .const false, .const (.error "")⟩
    let answers : List Served := [⟨.ok, [], [97, 98, 99], .length, true⟩]
    let c := (Copies.start r items answers).after served [.clone 0]
    Replayed served answers r items 0 c ∧ ∃ m s n, m.content = .streamed items ∧
      s.sent = [.error (.dispatch (.foreign Refusal.alreadyTaken.text))] ∧
      ∀ moves, let w := (Wired.mk (.start (config.assignment r (Context.new {} 0).wrapped
          ⟨src, some 8⟩) around) (c.attempt served r).2).after served moves
        w.copies.sent = [m] ∧ w.copies.network = (served answers m).2 ∧
          (n ≤ driven moves → w.session = s) := by
  intro r items src config around answers c
  let resp : Response (Bytes × Bool) :=
    ⟨true, .ok, [⟨Http.lengthField, [56]⟩], some ([97, 98, 99], false)⟩
  have houtcome : (Wire.attempt r c.cell c.network).1.outcome = .ok resp := by
    have hstatus : ((Wire.attempt r c.cell c.network).1.outcome.toOption.map fun x =>
        (x.ok, x.status)) = some (true, .ok) := by decide +kernel
    have hbody : ((Wire.attempt r c.cell c.network).1.outcome.toOption.map fun x =>
        (x.fields, x.body)) = some (resp.fields, resp.body) := by decide +kernel
    generalize (Wire.attempt r c.cell c.network).1.outcome = outcome at hstatus hbody
    cases outcome with
    | error t => cases hstatus
    | ok x =>
      cases x
      cases hstatus
      cases hbody
      rfl
  have hreply : (c.attempt served r).1
      = .ok (.ok ⟨true, .ok, resp.fields, some src⟩) := by
    rw [(attempt_served c r).1, houtcome]
    rfl
  have hfails : BodyFails config r ⟨true, .ok, resp.fields, some src⟩ src
      (.foreign "error decoding response body") := ⟨rfl, rfl, rfl, rfl, rfl⟩
  obtain ⟨hreplayed, hstage⟩ := replayed_verbatim served r items answers [.clone 0]
  obtain ⟨-, m, s, n, -, hcontent, -, -, hsent, hmoves⟩ := hstage config (.new {} 0) around
    ⟨true, .ok, resp.fields, some src⟩ src _ rfl rfl (by decide) rfl hreply hfails rfl rfl
  exact ⟨hreplayed, m, s, n, hcontent, hsent, hmoves⟩

end Wire

end Refetch

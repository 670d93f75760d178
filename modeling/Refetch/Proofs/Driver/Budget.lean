import Refetch.Proofs.Driver.Schedule
/-!
# What a run costs

A run reads every item of the attempts that it takes up at most once, and it takes up no more
attempts than it has budget for:

* `reads`         the items read in so many steps of a session;
* `Driver.left`   the items that a driver may still read of the source it holds;
* `left_step`     a step that reads an item leaves one less, a new attempt brings its own;
* `reads_le`      so no run reads more than its attempts give;
* `attempts_le`   nor takes up more attempts than its budget allows;
* `Paces`         a driver and its consumer, as far as they have come;
* `run_within_budget`   every run comes to its end within these bounds.
-/

namespace Refetch

open Session Driver Duet

/-- the items that a body gives: its chunks and its end -/
def Source.span (src : Source) : Nat := src.chunks.length + 1

def spanOf : List Attempt → Nat
  | [] => 0
  | t :: ts => t.source.span + spanOf ts

theorem spanOf_append (xs ys : List Attempt) : spanOf (xs ++ ys) = spanOf xs + spanOf ys := by
  induction xs with
  | nil => exact (Nat.zero_add _).symm
  | cons t xs ih =>
    rw [List.cons_append, spanOf, spanOf, ih]
    omega

theorem spanOf_mono {xs ys : List Attempt} (h : xs <+: ys) : spanOf xs ≤ spanOf ys := by
  obtain ⟨more, rfl⟩ := h
  rw [spanOf_append]
  exact Nat.le_add_right _ _

namespace Session

def isReading (s : Session) : Bool :=
  match s.driver.ask false with
  | .item _ => true
  | _ => false

def reads (n : Nat) (s : Session) : Nat := (List.range n).countP fun i => (step^[i] s).isReading

theorem reads_succ (n : Nat) (s : Session) :
    reads (n + 1) s = reads n s + (step^[n] s).isReading.toNat := by
  have hlast : [n].countP (fun i => (step^[i] s).isReading) = (step^[n] s).isReading.toNat := by
    rw [List.countP_singleton]
    cases (step^[n] s).isReading <;> rfl
  rw [reads, List.range_succ, List.countP_append, hlast]
  rfl

end Session

/-! ## what is left of a source -/

/-- the driver sends the last chunks of the output -/
def Point.isLast : Point → Bool
  | .sending _ _ last => last
  | _ => false

namespace Driver

/-- the items of the source that the driver holds -/
def ahead (d : Driver Source) : Nat := (d.source.map Source.span).getD 0

/-- the items that the driver may still read of its source -/
def left (d : Driver Source) : Nat := if d.point.isLast then 0 else d.ahead

section
variable {d : Driver Source}

theorem left_le_ahead : d.left ≤ d.ahead := by
  unfold left
  split
  · exact Nat.zero_le _
  · exact Nat.le_refl _

theorem left_eq_ahead (h : d.point.isLast = false) : d.left = d.ahead := by
  rw [left, h]
  rfl

theorem ahead_of_some {src : Source} (h : d.source = some src) : d.ahead = src.span := by
  rw [ahead, h]
  rfl

theorem left_of_none (h : d.source = none) : d.left = 0 := by
  have hahead : d.ahead = 0 := by rw [ahead, h]; rfl
  exact Nat.le_zero.mp (hahead ▸ left_le_ahead)

theorem left_of_isDrained (h : d.isDrained) : d.left = 0 := by
  rcases h with hs | ⟨c, rest, hp⟩
  · exact left_of_none hs
  · rw [left, hp]
    rfl

theorem Own.left_le {x : Driver Source × Option Source} (h : d.Own x) : x.1.left ≤ d.ahead := by
  cases h with
  | keep m p => exact left_le_ahead
  | letGo m p => exact (left_of_none rfl).le.trans (Nat.zero_le _)

/-- a driver that sends its last chunks reads nothing more, whatever it is told -/
theorem left_react_of_isLast (h : d.point.isLast = true) (now : Moment) (a : Answer Source) :
    (d.react now a).1.left = 0 := by
  have hzero : d.left = 0 := by
    rw [left, h]
    rfl
  obtain ⟨c, rest, hp⟩ : ∃ c rest, d.point = .sending c rest true := by
    cases hp : d.point with
    | sending c rest last =>
      rw [hp] at h
      obtain rfl : last = true := h
      exact ⟨c, rest, rfl⟩
    | _ =>
      rw [hp] at h
      cases h
  unfold react
  rw [hp]
  cases a with
  | sent => exact left_of_isDrained (isDrained_emit_last d rest)
  | refused => exact left_of_none rfl
  | _ => exact hzero

/-- a driver that is told anything but a response has no more left than before -/
theorem left_react {broke : Bool} (h : d.Poised broke) (now : Moment) {a : Answer Source}
    (ha : ∀ o, a ≠ .responded o) : (d.react now a).1.left ≤ d.left := by
  cases hlast : d.point.isLast with
  | true =>
    rw [left_react_of_isLast hlast]
    exact Nat.zero_le _
  | false =>
    rw [left_eq_ahead hlast]
    have hown := handled_react h now a fun o ho => absurd ho (ha o)
    generalize d.react now a = x at hown
    cases hown with
    | own hx hr => exact hx.left_le
    | declined r m p ho => exact absurd ho (ha _)
    | takenUp r body m ho hb => exact absurd ho (ha _)

end

end Driver

/-! ## one step -/

namespace Session

variable {s : Session}

theorem poised_step (h : ∃ broke, s.driver.Poised broke) : ∃ broke, s.step.driver.Poised broke := by
  obtain ⟨broke, hd⟩ := h
  unfold step
  cases hask : s.driver.ask false with
  | item src =>
    have hp := (ask_item hask).1
    obtain ⟨_ | ⟨c, cs⟩, e⟩ := src
    · exact ⟨_, poised_react hd _ _⟩
    · exact ⟨_, poised_react (hd.withSource hp ⟨cs, e⟩) _ _⟩
  | log r => exact ⟨_, poised_react hd _ _⟩
  | room i => exact ⟨_, poised_react hd _ _⟩
  | pause p => exact ⟨_, poised_react hd _ _⟩
  | response r c => exact ⟨_, poised_react hd _ _⟩
  | word => exact ⟨broke, hd⟩
  | nothing => exact ⟨broke, hd⟩

/-- an item that is read is one less to read -/
theorem left_read {broke : Bool} (hd : s.driver.Poised broke) {src : Source}
    (hask : s.driver.ask false = .item src) : (s.read src).driver.left + 1 ≤ s.driver.left := by
  obtain ⟨hp, hs, -⟩ := ask_item hask
  have hleft : s.driver.left = src.span := by
    rw [left_eq_ahead (by rw [hp]; rfl), ahead_of_some hs]
  rw [hleft]
  obtain ⟨_ | ⟨c, cs⟩, e⟩ := src
  · -- the end: nothing is left, whatever it is
    have hnone : (s.told s.driver e.answer).left = 0 := by
      cases e with
      | clean => exact left_of_isDrained (isDrained_react hd hp _ _ (.inl rfl))
      | failure f => exact left_of_isDrained (isDrained_react hd hp _ _ (.inr ⟨f, rfl⟩))
      | breakdown words =>
        have hreact : ∀ now, s.driver.react now (.brokeDown words)
            = s.driver.letGo (.failing (.internal words)) := by
          intro now
          unfold react
          rw [hp]
        rw [told, Ending.answer, hreact]
        exact left_of_none rfl
    show (s.told s.driver e.answer).left + 1 ≤ 1
    rw [hnone]
  · have hrest := hd.withSource hp ⟨cs, e⟩
    have hle := left_react hrest ⟨false, s.around.aborts.head⟩ (a := .chunk c)
      fun o ho => by cases ho
    have hbound : ({ s.driver with source := some ⟨cs, e⟩ } : Driver Source).left ≤ cs.length + 1 :=
      left_le_ahead
    show (s.told { s.driver with source := some ⟨cs, e⟩ } (.chunk c)).left + 1 ≤ cs.length + 1 + 1
    exact Nat.add_le_add_right (hle.trans hbound) 1

/-- the attempt that a response makes gives what is left to read after it -/
theorem left_le_takenUp {broke : Bool} {d : Driver Source} (hd : d.Poised broke)
    (hp : d.point = .dispatching) (now : Moment) (m : Http.Method)
    (reply : Fallible (Except Failure (Response Source))) :
    let d' := (d.react now (Fallible.answer .responded reply)).1
    d'.left ≤ spanOf ((takenUp d' m reply).filterMap attemptOf) := by
  have hnone : d.source = none := (hd.between (.inr (.inr hp))).1
  have hahead : d.ahead = 0 := by
    rw [ahead, hnone]
    rfl
  have hhandled := handled_react hd now (Fallible.answer .responded reply) fun _ _ => hp
  generalize d.react now (Fallible.answer .responded reply) = x at hhandled
  cases hhandled with
  | own hx hr => exact (hx.left_le.trans hahead.le).trans (Nat.zero_le _)
  | declined r m p ho => exact (left_of_none rfl).le.trans (Nat.zero_le _)
  | takenUp r body m ho hb =>
    rcases reply with words | f | r'
    · cases ho
    · cases ho
    · exact (left_eq_ahead rfl).le

theorem left_call {broke : Bool} (hd : s.driver.Poised broke) (hp : s.driver.point = .dispatching)
    (r : Request) (c : Context) :
    (s.call r c).driver.left + spanOf s.attempts ≤ spanOf (s.call r c).attempts := by
  have hleft := left_le_takenUp hd hp ⟨false, s.around.aborts.head⟩ r.method s.around.replies.head
  have hattempts : (s.call r c).attempts = s.attempts ++
      (takenUp (s.call r c).driver r.method s.around.replies.head).filterMap attemptOf := by
    unfold attempts call
    rw [List.filterMap_append, List.filterMap_append]
    exact congrArg (· ++ _) (List.append_nil _)
  rw [hattempts, spanOf_append, Nat.add_comm]
  exact Nat.add_le_add_left hleft _

theorem attempts_snoc {x : Note} (h : attemptOf x = none) :
    (s.notes ++ [x]).filterMap attemptOf = s.attempts := by
  simp [attempts, h]

/-- A step that reads an item leaves one less to read, no other step leaves more, and an attempt
that is taken up brings the items that it gives. -/
theorem left_step (h : ∃ broke, s.driver.Poised broke) :
    s.isReading.toNat + s.step.driver.left + spanOf s.attempts
      ≤ s.driver.left + spanOf s.step.attempts := by
  obtain ⟨broke, hd⟩ := h
  -- only a read spends an item, and only a response brings an attempt
  have hquiet : ∀ t : Session, t.driver.left ≤ s.driver.left → t.attempts = s.attempts →
      0 + t.driver.left + spanOf s.attempts ≤ s.driver.left + spanOf t.attempts := by
    intro t hleft hattempts
    rw [hattempts]
    omega
  unfold isReading step
  cases hask : s.driver.ask false with
  | item src =>
    have hread := left_read hd hask
    have hattempts : (s.read src).attempts = s.attempts := by
      unfold read
      split <;> rfl
    show 1 + (s.read src).driver.left + spanOf s.attempts
      ≤ s.driver.left + spanOf (s.read src).attempts
    rw [hattempts]
    omega
  | log r =>
    refine hquiet (s.log r) (left_react hd _ fun o ho => ?_) (attempts_snoc rfl)
    cases hl : s.around.logs.head <;> rw [hl] at ho <;> cases ho
  | room i => exact hquiet _ (left_react hd _ fun o ho => by cases ho) (attempts_snoc rfl)
  | pause p => exact hquiet _ (left_react hd _ fun o ho => by cases ho) (attempts_snoc rfl)
  | response r c =>
    have hcall := left_call hd (ask_response hask).1 r c
    show 0 + (s.call r c).driver.left + spanOf s.attempts
      ≤ s.driver.left + spanOf (s.call r c).attempts
    omega
  | word => exact hquiet s (Nat.le_refl _) rfl
  | nothing => exact hquiet s (Nat.le_refl _) rfl

/-! ## a whole run -/

theorem poised_iterate (h : ∃ broke, s.driver.Poised broke) (n : Nat) :
    ∃ broke, (step^[n] s).driver.Poised broke := by
  induction n with
  | zero => exact h
  | succ n ih =>
    rw [Function.iterate_succ_apply']
    exact poised_step ih

/-- what was read and what is left is what was left at the start and what the attempts taken up
since then give -/
theorem reads_add_left (h : ∃ broke, s.driver.Poised broke) (n : Nat) :
    reads n s + (step^[n] s).driver.left + spanOf s.attempts
      ≤ s.driver.left + spanOf (step^[n] s).attempts := by
  -- a new attempt is paid for by what it gives, so the sum over the steps telescopes
  induction n with
  | zero => exact (Nat.zero_add _).symm ▸ Nat.le_refl _
  | succ n ih =>
    have hstep := left_step (poised_iterate h n)
    rw [reads_succ, Function.iterate_succ_apply']
    omega

end Session

section
variable {a : Assignment Source} {w : Surroundings}

/-- a run reads no more than the attempts that it takes up give -/
theorem reads_le {s : Session} (hs : Ends (.start a w) s) (n : Nat) :
    reads n (.start a w) ≤ spanOf s.attempts := by
  have hpoised : ∃ broke, (Session.start a w).driver.Poised broke := ⟨false, rfl, rfl, rfl⟩
  have hrun := reads_add_left hpoised n
  have hstart : (Session.start a w).driver.left = spanOf (Session.start a w).attempts := rfl
  have hnotes : (Session.step^[n] (.start a w)).notes <+: s.notes :=
    notes_prefix_of_leads (hs.leads_of_leads ⟨n, rfl⟩)
  have hmono : spanOf (Session.step^[n] (.start a w)).attempts ≤ spanOf s.attempts :=
    spanOf_mono (hnotes.filterMap attemptOf)
  omega

/-- every attempt after the first one takes one of the budget -/
theorem Story.attempts_le {k : Nat} {t last : Attempt} {notes : List Note} {v : Verdict}
    (s : Story a k t w notes last v) :
    (notes.filterMap attemptOf).length ≤ a.policy.maxAttempts - k := by
  induction s with
  | ended h =>
    rw [attempts_ended h]
    exact Nat.zero_le _
  | again h rest ih =>
    have hk := (passage_again h).2
    rw [attempts_again h, List.length_cons]
    omega

/-! ## a driver and its consumer -/

def Mark.isEvent : Mark → Bool
  | .told (.chunk _) => true
  | .told .ended => true
  | .told (.failed _) => true
  | _ => false

def events (tr : List Mark) : Nat := tr.countP Mark.isEvent

theorem events_append (xs ys : List Mark) : events (xs ++ ys) = events xs + events ys :=
  List.countP_append

theorem events_telling (item : Option Item) (b : Answer Source) (gone : Option Source) :
    events (telling item b gone) = (Mark.isEvent (.told b)).toNat := by
  have hsent : events (item.toList.map .sent) = 0 := by cases item <;> rfl
  have hgone : events (gone.toList.map .letGo) = 0 := by cases gone <;> rfl
  have htold : events [.told b] = (Mark.isEvent (.told b)).toNat := by
    unfold events
    rw [List.countP_singleton]
    cases Mark.isEvent (.told b) <;> rfl
  have hcons : telling item b gone
      = item.toList.map .sent ++ ([.told b] ++ gone.toList.map .letGo) := rfl
  rw [hcons, events_append, events_append, hsent, htold, hgone]
  omega

/-- the duet has come as far as some steps of the run, and was told no more items than were read in
them -/
def Paces (a : Assignment Source) (w : Surroundings) (tr : List Mark) (d : Duet) : Prop :=
  ∃ n notes, Session.step^[n] (.start a w) = d.session notes ∧ events tr ≤ reads n (.start a w)

section
variable {tr : List Mark} {d d' : Duet} {t : Turn} {seen : List Mark}

/-- a driver that is told an item reads its source -/
theorem Tells.isReading {dr : Driver Source} {v : Surroundings} {o : Output} {b : Answer Source}
    (ht : Tells d t seen dr v o b) (notes : List Note) :
    (Mark.isEvent (.told b)).toNat ≤ (d.session notes).isReading.toNat := by
  have hreading : ∀ src, d.driver.ask false = .item src → (d.session notes).isReading = true := by
    intro src h
    unfold Session.isReading Duet.session
    rw [h]
  cases ht with
  | chunk c cs e hw h =>
    rw [hreading _ h]
    exact Bool.toNat_le _
  | ending e hw h =>
    rw [hreading _ h]
    exact Bool.toNat_le _
  | logged r h => cases d.around.logs.head <;> exact Nat.zero_le _
  | responded r c hw h => cases d.around.replies.head <;> exact Nat.zero_le _
  | _ => exact Nat.zero_le _

theorem Paces.told {dr : Driver Source} {v : Surroundings} {o : Output} {b : Answer Source}
    (h : Paces a w tr d) (ho : d.output.closed = false) (ht : Tells d t seen dr v o b) :
    Paces a w (tr ++ (seen ++ (d.tell dr v o b).1)) (d.tell dr v o b).2 := by
  obtain ⟨n, notes, hn, hle⟩ := h
  obtain ⟨more, hstep, -⟩ := step_of_tells ho ht notes
  obtain ⟨item, hitem⟩ := ht.seen_eq
  have hevents : events (seen ++ (d.tell dr v o b).1) = (Mark.isEvent (.told b)).toNat := by
    rw [hitem]
    exact events_telling item b _
  have hreading := ht.isReading notes
  refine ⟨n + 1, notes ++ more, ?_, ?_⟩
  · rw [Function.iterate_succ_apply', hn, hstep]
  · rw [events_append, hevents, reads_succ, hn]
    omega

theorem Paces.turned (h : Paces a w tr d) (ho : d.output.closed = false)
    (ht : Turned d t seen d') : Paces a w (tr ++ seen) d' := by
  have hquiet : ∀ d₁ : Duet, d₁.driver = d.driver → d₁.around = d.around → events seen = 0 →
      Paces a w (tr ++ seen) d₁ := by
    obtain ⟨n, notes, hn, hle⟩ := h
    intro d₁ hdriver haround hnone
    refine ⟨n, notes, ?_, ?_⟩
    · rw [hn, session, session, hdriver, haround]
    · rw [events_append, hnone]
      exact hle
  cases ht with
  | tells ht => exact h.told ho ht
  | polled b hask hp => exact hquiet _ rfl rfl rfl
  | ended hask => exact hquiet _ rfl rfl rfl
  | full i hask hopen hfull => exact hquiet _ rfl rfl rfl
  | idle hidle => exact hquiet _ rfl rfl rfl
  | took => exact hquiet _ rfl rfl rfl
  | closed => exact hquiet _ rfl rfl rfl

/-- what is closed stays closed -/
theorem Turned.closed_mono (ht : Turned d t seen d') (ho : d'.output.closed = false) :
    d.output.closed = false := by
  cases ht with
  | tells ht => exact ht.ends_eq.1.symm.trans ho
  | took => exact (next_ends_eq d.output).1.symm.trans ho
  | closed => cases ho
  | _ => exact ho

theorem paces_after (ts : List Turn) (ho : ((Duet.start a w).after ts).output.closed = false) :
    Paces a w ((Duet.start a w).trace ts) ((Duet.start a w).after ts) := by
  have hstart : Paces a w [] (.start a w) := ⟨0, _, rfl, Nat.le_refl _⟩
  refine schedule_induction (P := fun tr d => d.output.closed = false → Paces a w tr d)
    (fun _ => hstart) (fun tr d t seen d' h ht ho => ?_) ts ho
  have hopen := ht.closed_mono ho
  exact (h hopen).turned hopen ht

end

end

/-- A run comes to its end.  It takes up no more attempts than the budget allows, and one at least,
and it reads every item of them at most once: the chunks and the end of each.  So does the driver
under every fair schedule of a consumer that does not close, and there it comes to the same end. -/
theorem run_within_budget (a : Assignment Source) (w : Surroundings) :
    ∃ s, (∀ u, Ends (.start a w) u ↔ u = s) ∧
      s.attempts.length ≤ max 1 a.policy.maxAttempts ∧
      (∀ n, reads n (.start a w) ≤ spanOf s.attempts) ∧
      ∀ ts : Stream' Turn, Fair ts →
        (∀ k, events ((Duet.start a w).trace (ts.take k)) ≤ spanOf s.attempts) ∧
        ∃ k, ((Duet.start a w).after (ts.take k)).driver.point = .stopped ∧
          ((Duet.start a w).after (ts.take k)).session s.notes = s := by
  obtain ⟨s, story, last, v, hst, hnotes, hends⟩ := ends_of_start a w
  have hs : Ends (.start a w) s := (hends s).mpr rfl
  have hopen : ∀ ts : Stream' Turn, Fair ts → ∀ k,
      ((Duet.start a w).after (ts.take k)).output.closed = false :=
    fun ts hf k => (hf.unclosed unclosed_start k).opened
  refine ⟨s, hends, ?_, reads_le hs, fun ts hf => ⟨fun k => ?_, ?_⟩⟩
  · have hretries := hst.attempts_le
    have hlength : s.attempts.length = (story.filterMap attemptOf).length + 1 := by
      rw [attempts, hnotes]
      rfl
    omega
  · obtain ⟨n, notes, -, hle⟩ := paces_after (ts.take k) (hopen ts hf k)
    exact hle.trans (reads_le hs n)
  · obtain ⟨n, hn⟩ := stopsIn_start hs
    obtain ⟨k, hk⟩ := hf.finishes unclosed_start hn
    have hended := (ended_of_next (hopen ts hf k) hk).2
    have hstopped := (settled_after a w (ts.take k)).ended hended
    obtain ⟨m, notes, hm, -⟩ := paces_after (ts.take k) (hopen ts hf k)
    have hsame : ((Duet.start a w).after (ts.take k)).session notes = s :=
      Ends.unique ⟨⟨m, hm⟩, hstopped⟩ hs
    refine ⟨k, hstopped, ?_⟩
    obtain rfl : notes = s.notes := congrArg Session.notes hsame
    exact hsame

/-- an endless supply of bodies that close one byte too early does not keep a run going, though
the budget is as large as it can be -/
theorem run_within_budget_endless :
    let short : Source := ⟨[[97], []], .clean⟩
    let a : Assignment Source :=
      ⟨{ maxAttempts := attemptCap, ceiling := some 8 },
        ⟨.get, ⟨"http", none, .whole "", none, none⟩, [], .empty⟩, .new {} 0, short, some 2⟩
    let w : Surroundings := ⟨.const (.ok none), .const false,
      .const (.ok (.ok ⟨true, .ok, [⟨"content-length", [50]⟩], some short⟩))⟩
    Fair roundRobin ∧ ∃ s, (∀ u, Ends (.start a w) u ↔ u = s) ∧ s.attempts.length ≤ attemptCap ∧
      ∃ k, ((Duet.start a w).after (roundRobin.take k)).driver.point = .stopped := by
  intro short a w
  obtain ⟨s, hends, hlength, -, hfair⟩ := run_within_budget a w
  obtain ⟨-, k, hstopped, -⟩ := hfair roundRobin fair_roundRobin
  have hcap : max 1 a.policy.maxAttempts = attemptCap := rfl
  exact ⟨fair_roundRobin, s, hends, hcap ▸ hlength, k, hstopped⟩

end Refetch

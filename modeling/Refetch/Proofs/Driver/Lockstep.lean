import Refetch.Proofs.Driver.Marks
/-!
# A schedule against the run without a close

As long as nobody closes the output, a driver and its consumer do what the driver does alone:

* `Duet.session`   the driver with what is left of its surroundings, as a session;
* `received`       the items that the consumer took;
* `step_of_tells`  a turn in which the driver is told something is one step of the session;
* `Stands`         a duet stands where the run without a close does;
* `Tracks`         so it does until the close, and what was received is a prefix for ever.
-/

namespace Refetch

open Session Driver Duet

/-- the driver with what is left of its surroundings, and these notes -/
def Duet.session (d : Duet) (notes : List Note) : Session := ⟨d.driver, d.around, notes⟩

def Mark.taken? : Mark → Option Item
  | .took (.item i) => some i
  | _ => none

/-- the items that the consumer took, oldest first -/
def received (tr : List Mark) : List Item := tr.filterMap Mark.taken?

theorem received_append (xs ys : List Mark) : received (xs ++ ys) = received xs ++ received ys :=
  List.filterMap_append

theorem received_telling (item : Option Item) (a : Answer Source) (gone : Option Source) :
    received (telling item a gone) = [] := by
  cases item <;> cases gone <;> rfl

/-! ## one turn, one step -/

theorem sent_takenUp (d : Driver Source) (m : Http.Method)
    (reply : Fallible (Except Failure (Response Source))) :
    (takenUp d m reply).filterMap itemOf = [] := by
  refine List.filterMap_eq_nil_iff.mpr fun x hx => ?_
  unfold takenUp at hx
  split at hx
  · obtain ⟨src, -, rfl⟩ := List.mem_map.mp hx
    rfl
  · cases hx

def Mark.item? : Mark → Option Item
  | .sent i => some i
  | _ => none

/-- the items among these marks that the driver sent -/
def offered (tr : List Mark) : List Item := tr.filterMap Mark.item?

section
variable {d : Duet} {t : Turn} {seen : List Mark} {dr : Driver Source} {w : Surroundings}
  {o : Output} {a : Answer Source}

/-- a turn in which the driver is told something is a step of its session -/
theorem step_of_tells (ho : d.output.closed = false) (ht : Tells d t seen dr w o a)
    (notes : List Note) :
    ∃ more, Session.step (d.session notes) = (d.tell dr w o a).2.session (notes ++ more) ∧
      more.filterMap itemOf = offered seen := by
  -- with the output open, the driver sees the moment that it sees in its session
  have hnow : d.now = ⟨false, d.around.aborts.head⟩ := by rw [now, ho]
  unfold session Session.step Duet.tell
  dsimp only
  rw [hnow]
  cases ht with
  | word h => rw [ho] at h; cases ask_word h
  | logged r h =>
    rw [ho] at h
    rw [h]
    exact ⟨[.logged r d.around.logs.head], rfl, rfl⟩
  | sent i h hopen room =>
    rw [ho] at h
    rw [h]
    exact ⟨[.sent i], rfl, rfl⟩
  | refused i h hc => rw [ho] at hc; cases hc
  | chunk c cs e hw h =>
    rw [h]
    exact ⟨[], by rw [List.append_nil]; rfl, rfl⟩
  | ending e hw h =>
    rw [h]
    exact ⟨[], by rw [List.append_nil]; rfl, rfl⟩
  | elapsed p hw h =>
    rw [h]
    exact ⟨[.paused p], rfl, rfl⟩
  | responded r c hw h =>
    rw [h]
    refine ⟨.called r c :: takenUp (Session.told ⟨d.driver, d.around, notes⟩ d.driver
      (Fallible.answer .responded d.around.replies.head)) r.method d.around.replies.head, ?_,
      sent_takenUp _ _ _⟩
    exact congrArg (Session.mk _ _) (List.append_assoc _ _ _)

theorem Tells.queue_eq (ht : Tells d t seen dr w o a) :
    o.queue = d.output.queue ++ offered seen := by
  cases ht with
  | sent i h hopen room => rfl
  | _ => exact (List.append_nil _).symm

end

/-! ## a whole schedule -/

/-- nothing that was noted is forgotten -/
theorem notes_prefix_step (s : Session) : s.notes <+: s.step.notes := by
  unfold Session.step
  split
  · unfold Session.read
    split <;> exact List.prefix_refl _
  · exact List.prefix_append _ _
  · exact List.prefix_append _ _
  · exact List.prefix_append _ _
  · exact (List.prefix_append _ _).trans (List.prefix_append _ _)
  · exact List.prefix_refl _
  · exact List.prefix_refl _

theorem notes_prefix_of_leads {s t : Session} (h : Leads s t) : s.notes <+: t.notes := by
  obtain ⟨n, rfl⟩ := h
  induction n with
  | zero => exact List.prefix_refl _
  | succ n ih =>
    rw [Function.iterate_succ_apply']
    exact ih.trans (notes_prefix_step _)

/-- what was sent stays sent -/
theorem sent_prefix_of_leads {s t : Session} (h : Leads s t) : s.sent <+: t.sent :=
  (notes_prefix_of_leads h).filterMap itemOf

/-- a run that has come this far goes on to its end -/
theorem Session.Ends.leads_of_leads {s t u : Session} (hu : Ends s u) (ht : Leads s t) :
    Leads t u := by
  obtain ⟨⟨m, rfl⟩, hm⟩ := hu
  obtain ⟨n, rfl⟩ := ht
  rcases Nat.le_total m n with h | h
  · rw [← Nat.sub_add_cancel h, Function.iterate_add_apply, iterate_stopped _ hm]
    exact Leads.refl _
  · rw [← Nat.sub_add_cancel h, Function.iterate_add_apply]
    exact ⟨m - n, rfl⟩

/-- the duet stands where the run without a close does: what that run has sent was received, or is
in the queue -/
def Stands (a : Assignment Source) (w : Surroundings) (tr : List Mark) (d : Duet) : Prop :=
  ∃ notes, Leads (.start a w) (d.session notes) ∧
    notes.filterMap itemOf = received tr ++ d.output.queue

section
variable {a : Assignment Source} {w : Surroundings} {tr : List Mark} {d d' : Duet} {t : Turn}
  {seen : List Mark}

theorem stands_start : Stands a w [] (.start a w) := ⟨_, Leads.refl _, rfl⟩

/-- what is received and queued together is the same before and after the consumer takes -/
theorem received_took (o : Output) (ho : o.closed = false) :
    received [.took o.next.1] ++ o.next.2.queue = o.queue := by
  unfold Output.next
  rw [ho]
  cases hq : o.queue with
  | nil => cases o.ended <;> exact hq
  | cons i rest => rfl

theorem Stands.told {dr : Driver Source} {v : Surroundings} {o : Output} {b : Answer Source}
    (h : Stands a w tr d) (ho : d.output.closed = false) (ht : Tells d t seen dr v o b) :
    Stands a w (tr ++ (seen ++ (d.tell dr v o b).1)) (d.tell dr v o b).2 := by
  obtain ⟨notes, hleads, hsent⟩ := h
  obtain ⟨more, hstep, hmore⟩ := step_of_tells ho ht notes
  obtain ⟨item, hitem⟩ := ht.seen_eq
  have hnone : received (seen ++ (d.tell dr v o b).1) = [] := by
    rw [hitem]
    exact received_telling item b _
  refine ⟨notes ++ more, hleads.trans (.of_step hstep), ?_⟩
  rw [received_append, hnone, List.append_nil, List.filterMap_append, hmore, hsent,
    List.append_assoc]
  exact congrArg _ ht.queue_eq.symm

theorem Stands.turned (h : Stands a w tr d) (ho : d.output.closed = false)
    (ht : Turned d t seen d') : Stands a w (tr ++ seen) d' := by
  obtain ⟨notes, hleads, hsent⟩ := h
  have hquiet {xs : List Mark} (hx : received xs = []) :
      notes.filterMap itemOf = received (tr ++ xs) ++ d.output.queue := by
    rw [received_append, hx, List.append_nil]
    exact hsent
  cases ht with
  | tells ht => exact Stands.told ⟨notes, hleads, hsent⟩ ho ht
  | polled a hask hp => exact ⟨notes, hleads, hquiet rfl⟩
  | ended hask => exact ⟨notes, hleads, hquiet rfl⟩
  | full i hask hopen hfull => exact ⟨notes, hleads, hquiet rfl⟩
  | idle hidle => exact ⟨notes, hleads, hquiet rfl⟩
  | took =>
    refine ⟨notes, hleads, ?_⟩
    rw [received_append, List.append_assoc, received_took d.output ho]
    exact hsent
  | closed => exact ⟨notes, hleads, hquiet rfl⟩

/-- what was received is the beginning of all that the run without a close sends -/
theorem Stands.received_prefix (h : Stands a w tr d) {s : Session} (hs : Ends (.start a w) s) :
    received tr <+: s.sent := by
  obtain ⟨notes, hleads, hsent⟩ := h
  have hmore : (d.session notes).sent <+: s.sent :=
    sent_prefix_of_leads (hs.leads_of_leads hleads)
  rw [Session.sent, session, hsent] at hmore
  exact (List.prefix_append _ _).trans hmore

/-- at the end of the output all of it was received -/
theorem Stands.received_eq (h : Stands a w tr d) {s : Session} (hs : Ends (.start a w) s)
    (hp : d.driver.point = .stopped) (hq : d.output.queue = []) : received tr = s.sent := by
  obtain ⟨notes, hleads, hsent⟩ := h
  have heq : d.session notes = s := Ends.unique ⟨hleads, hp⟩ hs
  rw [← heq, Session.sent, session, hsent, hq, List.append_nil]

end

/-! ## after the close -/

/-- what may be seen once the output is closed: nothing is polled, nothing is sent, and the consumer
gets nothing -/
def Mark.IsLate : Mark → Prop
  | .took n => n = .finish
  | .polled _ => False
  | .sent _ => False
  | _ => True

theorem isPolled_closed (d : Driver Source) : (d.ask true).isPolled = false := by
  cases h : d.ask true with
  | item s => cases (ask_item h).2.2
  | pause p => cases (ask_pause h).2
  | response r c => cases (ask_response h).2
  | _ => rfl

section
variable {d d' : Duet} {t : Turn} {seen : List Mark}

theorem late_told {dr : Driver Source} {w : Surroundings} {o : Output} {a : Answer Source}
    (hc : d.output.closed = true) (ht : Tells d t seen dr w o a) :
    ∀ m ∈ seen ++ (d.tell dr w o a).1, m.IsLate := by
  have hseen : seen = [] := by
    cases ht with
    | sent i h ho room => rw [hc] at ho; cases ho
    | _ => rfl
  intro m hm
  rw [hseen, List.nil_append, Duet.tell] at hm
  rcases List.mem_cons.mp hm with rfl | hm
  · trivial
  · obtain ⟨s, -, rfl⟩ := List.mem_map.mp hm
    trivial

theorem late_turned (hc : d.output.closed = true) (ht : Turned d t seen d') :
    (∀ m ∈ seen, m.IsLate) ∧ d'.output.closed = true := by
  cases ht with
  | tells ht => exact ⟨late_told hc ht, ht.ends_eq.1.trans hc⟩
  | polled a hask hp =>
    rw [hc] at hask
    rw [← hask, isPolled_closed] at hp
    cases hp
  | ended hask => exact ⟨List.forall_mem_nil _, hc⟩
  | full i hask hopen hfull => exact ⟨List.forall_mem_nil _, hc⟩
  | idle hidle => exact ⟨List.forall_mem_nil _, hc⟩
  | took =>
    rw [Output.next_closed _ hc]
    exact ⟨List.forall_mem_singleton.mpr rfl, hc⟩
  | closed => exact ⟨List.forall_mem_singleton.mpr trivial, rfl⟩

/-- after the close all that is seen is late -/
theorem late_trace (hc : d.output.closed = true) (ts : List Turn) :
    ∀ m ∈ d.trace ts, m.IsLate := by
  induction ts generalizing d with
  | nil => exact List.forall_mem_nil _
  | cons t ts ih =>
    obtain ⟨hlate, hclosed⟩ := late_turned hc (turned_turn d t)
    rw [trace_cons]
    exact List.forall_mem_append.mpr ⟨hlate, ih hclosed⟩

theorem received_late {ms : List Mark} (h : ∀ m ∈ ms, m.IsLate) : received ms = [] := by
  refine List.filterMap_eq_nil_iff.mpr fun m hm => ?_
  have hlate := h m hm
  cases m with
  | took n =>
    obtain rfl : n = .finish := hlate
    rfl
  | _ => rfl

theorem react_orphaned {now : Moment} (hc : now.closed = true) {d : Driver Source}
    (hp : d.point = .dispatching) (r : Response Source) :
    d.react now (.responded (.ok r)) = (d.quit.1, r.body) := by
  unfold react
  rw [hp]
  exact if_pos hc

/-- a response that comes after the close is let go, and the driver is done -/
theorem orphaned_turn (hc : d.output.closed = true) (r : Response Source)
    (hm : .told (.responded (.ok r)) ∈ (d.turn t).1) :
    (d.turn t).2.driver.source = none ∧ (d.turn t).2.driver.point = .stopped ∧
      ∀ body, r.body = some body → .letGo body ∈ (d.turn t).1 := by
  have ht := turned_turn d t
  generalize (d.turn t).1 = seen at hm ht ⊢
  generalize (d.turn t).2 = d' at ht ⊢
  cases ht with
  | tells ht =>
    obtain ⟨item, rfl⟩ := ht.seen_eq
    rename_i a
    obtain rfl : a = .responded (.ok r) := by simpa [Duet.tell, eq_comm] using hm
    unfold Duet.tell
    rw [react_orphaned hc ht.fits]
    refine ⟨rfl, rfl, fun body hbody => ?_⟩
    simp [hbody]
  | _ => simp at hm

end

/-! ## every schedule -/

section
variable {a : Assignment Source} {w : Surroundings} {tr : List Mark} {d d' : Duet} {t : Turn}
  {seen : List Mark}

/-- until the close the duet stands where the run without a close does; what was received is the
beginning of what that run sends, before the close and after it -/
structure Tracks (a : Assignment Source) (w : Surroundings) (tr : List Mark) (d : Duet) : Prop where
  stands : d.output.closed = false → Stands a w tr d
  received : ∀ s, Ends (.start a w) s → received tr <+: s.sent

theorem tracks_start : Tracks a w [] (.start a w) :=
  ⟨fun _ => stands_start, fun _ hs => stands_start.received_prefix hs⟩

theorem Tracks.turned (h : Tracks a w tr d) (ht : Turned d t seen d') :
    Tracks a w (tr ++ seen) d' := by
  -- the close itself still finds the duet where the run without one stands
  cases hc : d.output.closed with
  | false =>
    have hstands := (h.stands hc).turned hc ht
    exact ⟨fun _ => hstands, fun s hs => hstands.received_prefix hs⟩
  | true =>
    obtain ⟨hlate, hclosed⟩ := late_turned hc ht
    refine ⟨fun ho => ?_, fun s hs => ?_⟩
    · rw [hclosed] at ho
      cases ho
    · rw [received_append, received_late hlate, List.append_nil]
      exact h.received s hs

theorem tracks_after (ts : List Turn) :
    Tracks a w ((Duet.start a w).trace ts) ((Duet.start a w).after ts) :=
  schedule_induction tracks_start (fun _ _ _ _ _ h ht => h.turned ht) ts

end

end Refetch

import Refetch.Proofs.Scenario.Answers
/-!
# Turns in the two worlds

Drivers move in a world without inner stages and in the same world with them, turn by turn:

* `World.Behind.tell`     a driver is told what it is told in the other world;
* `World.Behind.step`     one step of a driver: it asks for the same, and is told the same;
* `World.Behind.steps`, `move`, `drain`, `settle`   so turns take the two worlds alike.
-/

namespace Refetch.Scenario

variable {inner : List Config} {w w' : World}

namespace World

theorem Behind.momentOf (h : w.Behind inner w') {t t' : Task} (ht : t.Behind inner.length t') :
    w'.momentOf t' = w.momentOf t := by
  unfold World.momentOf
  rw [ht.output.closed, ht.driver.context, h.on]

theorem Behind.tell (h : w.Behind inner w') (n : OutputId) {a a' : Answer Feed}
    (ha : a.Behind inner.length a') : (w.tell n a).Behind inner (w'.tell n a') := by
  unfold World.tell
  match w.tasks[n]?, w'.tasks[n]?, h.task n with
  | _, _, .none => exact h
  | some t, some t', .some ht =>
    obtain ⟨hd, hs⟩ := ht.driver.react (w.momentOf t) ha
    dsimp only
    rw [h.momentOf ht]
    refine Behind.releaseOption (h.mapTask n fun t t' ht => ?_) hs
    exact { ht with driver := hd }

theorem Behind.tellBreakdown (h : w.Behind inner w') (n : OutputId) (b : Breakdown) :
    (w.tellBreakdown n b).Behind inner (w'.tellBreakdown n b) := by
  have hw := h.tell n (.brokeDown b.message)
  unfold World.tellBreakdown
  dsimp only
  generalize w.tell n (.brokeDown b.message) = v at hw ⊢
  generalize w'.tell n (.brokeDown b.message) = v' at hw ⊢
  match v.tasks[n]?, v'.tasks[n]?, hw.task n with
  | _, _, .none => exact hw
  | some t, some t', .some ht =>
    dsimp only
    rw [ht.driver.request]
    exact hw.releaseRequest _

theorem Behind.tellPoll {α β : Type} {R : α → β → Prop} {p : Poll α} {p' : Poll β}
    (h : w.Behind inner w') (hp : p.Behind R p') (n : OutputId) {f : α → Answer Feed}
    {f' : β → Answer Feed} (hf : ∀ a b, R a b → (f a).Behind inner.length (f' b)) :
    Alike inner (w.tellPoll n f p) (w'.tellPoll n f' p') := by
  cases hp with
  | ready hab => exact ⟨rfl, h.tell n (hf _ _ hab)⟩
  | broken b => exact ⟨rfl, h.tellBreakdown n b⟩
  | pending => exact ⟨rfl, h⟩

theorem Behind.stepPause (h : w.Behind inner w') (n : OutputId) {t t' : Task}
    (ht : t.Behind inner.length t') (d : Delay) :
    Alike inner (w.stepPause n t d) (w'.stepPause n t' d) := by
  unfold World.stepPause
  rw [ht.pause]
  cases t.pause with
  | none =>
    dsimp only
    match w.beginPause d, w'.beginPause d, h.beginPause d with
    | (.ok p, w), (_, w'), ⟨rfl, hw⟩ =>
      refine ⟨rfl, hw.mapTask n fun t t' ht => ?_⟩
      exact { ht with pause := rfl }
    | (.error b, w), (_, w'), ⟨rfl, hw⟩ => exact ⟨rfl, hw.tellBreakdown n b⟩
  | some p =>
    dsimp only
    rw [h.isOver]
    split
    · refine ⟨rfl, Behind.tell (h.mapTask n fun t t' ht => ?_) n .elapsed⟩
      exact { ht with pause := rfl }
    · exact ⟨rfl, h.waitFor p⟩

/-- the call that a driver has begun, or begins now -/
theorem Behind.running (h : w.Behind inner w') {t t' : Task} (ht : t.Behind inner.length t')
    (r : Request) {c : Context} (hc : c.active = true) :
    Running.Behind inner.length (Heard inner.length)
      (t.call.getD ⟨Stage.stack w.inner r c, none⟩)
      (t'.call.getD ⟨Stage.stack w'.inner r c, none⟩) := by
  match t.call, t'.call, ht.call with
  | some p, some p', .some hp => exact hp
  | none, none, .none =>
    rw [h.alone, h.stacked]
    refine ⟨?_, rfl⟩
    change (Stage.dispatch r c).Behind _ _ (Stage.stack inner r c)
    rw [Stage.stack_active inner r hc]
    exact Stage.dispatch_behind _ r c

theorem Behind.stepCall (h : w.Behind inner w') (n : OutputId) {t t' : Task}
    (ht : t.Behind inner.length t') (r : Request) {c : Context} (hc : c.active = true) :
    Alike inner (w.stepCall n t r c) (w'.stepCall n t' r c) := by
  unfold World.stepCall
  dsimp only
  match Running.poll _ w, Running.poll _ w', h.poll (h.running ht r hc) with
  | (.ready o, left, w), (_, left', w'), ⟨.ready ⟨hbare, rfl⟩, _, hw⟩ =>
    -- the transport came to the same in both worlds; the second driver hears it through the stages
    refine ⟨rfl, Behind.tell (hw.mapTask n fun t t' ht => ?_) n (.responded _ hbare)⟩
    exact { ht with call := .none }
  | (_, left, w), (_, left', w'), ⟨.broken b, _, hw⟩ =>
    refine ⟨rfl, Behind.tellBreakdown (hw.mapTask n fun t t' ht => ?_) n b⟩
    exact { ht with call := .none }
  | (_, left, w), (_, left', w'), ⟨.pending, hleft, hw⟩ =>
    refine ⟨rfl, hw.mapTask n fun t t' ht => ?_⟩
    exact { ht with call := .some hleft }

theorem Behind.stop (h : w.Behind inner w') (n : OutputId) {t t' : Task}
    (ht : t.Behind inner.length t') : (w.stop n t).Behind inner (w'.stop n t') := by
  unfold World.stop
  rw [ht.driver.request]
  refine Behind.setOutput (Behind.releaseRequest (h.mapTask n fun t t' ht => ?_) _) n
    ht.output.finish
  exact { ht with isOver := rfl }

theorem behind_answerOf {n : Nat} {i i' : SourceItem} (h : i.Behind n i') :
    (answerOf i).Behind n (answerOf i') := by
  cases h with
  | chunk c => exact .chunk c
  | failure f => exact .failed f
  | finish => exact .ended

/-- one step of a driver takes the two worlds alike -/
theorem Behind.step (h : w.Behind inner w') (n : OutputId) :
    Alike inner (w.step n) (w'.step n) := by
  unfold World.step
  match w.tasks[n]?, w'.tasks[n]?, h.task n with
  | _, _, .none => exact ⟨rfl, h⟩
  | some t, some t', .some ht =>
    -- the two drivers wait for the same, so there is one case for each thing that they ask for
    have hask := ht.driver.ask t.output.closed
    dsimp only
    rw [ht.output.closed]
    generalize t.driver.ask t.output.closed = a at hask ⊢
    generalize t'.driver.ask t.output.closed = a' at hask ⊢
    cases hask with
    | word =>
      refine ⟨rfl, Behind.tell (h.mapTask n fun t t' ht => ?_) n .closed⟩
      exact { ht with pause := rfl, call := .none }
    | nothing =>
      refine ⟨rfl, ?_⟩
      dsimp only
      rw [ht.isOver]
      split
      · exact h
      · exact h.stop n ht
    | item hf =>
      obtain ⟨hanswer, hw⟩ := h.pollFeed hf
      exact hw.tellPoll hanswer n fun i i' => behind_answerOf
    | log hr =>
      obtain ⟨hanswer, hw⟩ := h.logEvent hr
      refine hw.tellPoll (.of_eq hanswer) n fun a b hab => ?_
      subst hab
      exact .logged b
    | room hi =>
      dsimp only
      match t.output.offer _, t'.output.offer _, ht.output.offer hi with
      | .taken o, .taken o', .taken ho => exact ⟨rfl, (h.setOutput n ho).tell n .sent⟩
      | .refused, .refused, .refused => exact ⟨rfl, h.tell n .refused⟩
      | .full, .full, .full => exact ⟨rfl, h⟩
    | pause d => exact h.stepPause n ht d
    | response r c hc => exact h.stepCall n ht r hc

/-! ## turn after turn -/

theorem Behind.steps (h : w.Behind inner w') (fuel : Nat) (n : OutputId) :
    (World.steps fuel w n).Behind inner (World.steps fuel w' n) := by
  induction fuel generalizing w w' with
  | zero => exact h
  | succ fuel ih =>
    unfold World.steps
    match w.step n, w'.step n, h.step n with
    | (true, w), (_, w'), ⟨rfl, hw⟩ => exact ih hw
    | (false, w), (_, w'), ⟨rfl, hw⟩ => exact hw

theorem Behind.move (h : w.Behind inner w') (n : OutputId) :
    (w.move n).Behind inner (w'.move n) := by
  have hsteps : ∀ v v', Behind inner v v' →
      Behind inner (World.steps v.limit v n) (World.steps v'.limit v' n) := by
    intro v v' hv
    rw [hv.limit]
    exact hv.steps v.limit n
  exact (hsteps _ _ (h.moving (some n))).moving none

theorem Behind.drainWith (h : w.Behind inner w') (fuel : Nat) :
    (World.drainWith fuel w).Behind inner (World.drainWith fuel w') := by
  induction fuel generalizing w w' with
  | zero => exact h
  | succ fuel ih =>
    unfold World.drainWith
    rw [h.due]
    cases w.due with
    | nil => exact h
    | cons n rest =>
      refine ih (Behind.move ?_ n)
      exact { h with due := rfl }

theorem Behind.drain (h : w.Behind inner w') : w.drain.Behind inner w'.drain := by
  unfold World.drain
  rw [h.limit]
  exact (h.drainWith w.limit).wakeResting

theorem Behind.settleWith (h : w.Behind inner w') (fuel : Nat) :
    (World.settleWith fuel w).Behind inner (World.settleWith fuel w') := by
  induction fuel generalizing w w' with
  | zero => exact h
  | succ fuel ih =>
    unfold World.settleWith
    rw [h.isIdle]
    split
    · exact h
    · exact ih h.drain

theorem Behind.settle (h : w.Behind inner w') : w.settle.Behind inner w'.settle := by
  unfold World.settle
  rw [h.limit]
  exact h.settleWith w.limit

end World

end Refetch.Scenario

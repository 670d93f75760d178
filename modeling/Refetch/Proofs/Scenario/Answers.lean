import Refetch.Proofs.Scenario.Behind
/-!
# What is answered in the two worlds

Collaborators are asked in a world without inner stages and in the same world with them:

* `Poll.Behind`                   two answers with related results;
* `World.Behind.pollSource`, `pollCall`   scripts answer the same in both;
* `World.Behind.pollFeed`         a body that comes through the stages gives the same chunks;
* `World.Behind.pollProgram`      programs make the same calls.
-/

namespace Refetch.Scenario

open List (Forall₂)

variable {α β : Type} {n : Nat} {inner : List Config} {w w' : World}

inductive Poll.Behind (R : α → β → Prop) : Poll α → Poll β → Prop where
  | ready {a : α} {b : β} (h : R a b) : Behind R (.ready a) (.ready b)
  | pending : Behind R .pending .pending
  | broken (b : Breakdown) : Behind R (.broken b) (.broken b)

theorem Poll.Behind.of_eq {p p' : Poll α} (h : p' = p) : p.Behind (fun a b => b = a) p' := by
  subst h
  cases p' with
  | ready a => exact .ready rfl
  | pending => exact .pending
  | broken b => exact .broken b

theorem Poll.Behind.map {γ δ : Type} {R : α → β → Prop} {S : γ → δ → Prop} {f : α → γ} {g : β → δ}
    {p : Poll α} {p' : Poll β} (h : p.Behind R p') (hf : ∀ a b, R a b → S (f a) (g b)) :
    (p.map f).Behind S (p'.map g) := by
  cases h with
  | ready h => exact .ready (hf _ _ h)
  | pending => exact .pending
  | broken b => exact .broken b

inductive SourceItem.Behind (n : Nat) : SourceItem → SourceItem → Prop where
  | chunk (c : Bytes) : Behind n (.chunk c) (.chunk c)
  | failure (f : Failure) : Behind n (.failure f) (.failure (f.relayed .stream n))
  | finish : Behind n .finish .finish

namespace World

/-! ## sources -/

theorem Behind.pollSource (h : w.Behind inner w') (k : SourceId) (as : List SourceAction) :
    Alike inner (Scenario.pollSource k as w) (Scenario.pollSource k as w') := by
  induction as generalizing w w' with
  | nil => exact ⟨rfl, (h.setSource k []).note (.same _ rfl)⟩
  | cons a rest ih =>
    have hset := h.setSource k rest
    cases a with
    | chunk c => exact ⟨rfl, hset.note (.same _ rfl)⟩
    | fail f => exact ⟨rfl, hset.note (.same _ rfl)⟩
    | finish => exact ⟨rfl, hset.note (.same _ rfl)⟩
    | breakDown b => exact ⟨rfl, hset.note (.same _ rfl)⟩
    | hang => exact ⟨rfl, h.setSource k _⟩
    | deed d => exact ih (hset.doDeed d)
    | gate g =>
      unfold Scenario.pollSource
      rw [h.isOpen]
      split
      · exact ih hset
      · exact ⟨rfl, (h.setSource k _).waitAtGate g⟩
    | wait j =>
      cases j with
      | zero => exact ih hset
      | succ j => exact ⟨rfl, (h.setSource k _).rest⟩

theorem Behind.pollOutput (h : w.Behind inner w') (k : OutputId) :
    Both inner (Poll.Behind (Option.Rel (Item.Behind inner.length))) (Scenario.pollOutput k w)
      (Scenario.pollOutput k w') := by
  unfold Scenario.pollOutput
  match w.tasks[k]?, w'.tasks[k]?, h.task k with
  | _, _, .none => exact ⟨.ready .none, h⟩
  | some t, some t', .some ht =>
    dsimp only
    match t.output.next, t'.output.next, ht.output.next with
    | (.item i, o), (.item i', o'), ⟨.item hi, ho⟩ =>
      exact ⟨.ready (.some hi), h.takeItem k ht ho⟩
    | (.finish, o), (.finish, o'), ⟨.finish, _⟩ => exact ⟨.ready .none, h⟩
    | (.pending, o), (.pending, o'), ⟨.pending, _⟩ => exact ⟨.pending, h.waitForItem k⟩

/-! ## bodies -/

theorem behind_zero (i : SourceItem) : i.Behind 0 i := by
  cases i with
  | chunk c => exact .chunk c
  | failure f => exact .failure f
  | finish => exact .finish

theorem behind_passItem {i i' : SourceItem} (h : i.Behind n i') :
    i.Behind (n + 1) (passItem i') := by
  cases h with
  | chunk c => exact .chunk c
  | failure f => exact .failure f
  | finish => exact .finish

/-- a body that stages passed through gives what it gives itself, with its failures wrapped -/
theorem pollFeed_relayed (f : Feed) (n : Nat) (w : World) :
    (pollFeed f w).1.Behind (SourceItem.Behind n) (pollFeed (f.relayed n) w).1 ∧
      (pollFeed (f.relayed n) w).2 = (pollFeed f w).2 := by
  induction n with
  | zero =>
    refine ⟨?_, rfl⟩
    change (pollFeed f w).1.Behind _ (pollFeed f w).1
    cases (pollFeed f w).1 with
    | ready i => exact .ready (behind_zero i)
    | pending => exact .pending
    | broken b => exact .broken b
  | succ n ih =>
    obtain ⟨hpoll, hw⟩ := ih
    refine ⟨?_, hw⟩
    change (pollFeed f w).1.Behind _ ((pollFeed (f.relayed n) w).1.map passItem)
    match (pollFeed f w).1, (pollFeed (f.relayed n) w).1, hpoll with
    | _, _, .ready h => exact .ready (behind_passItem h)
    | _, _, .pending => exact .pending
    | _, _, .broken b => exact .broken b

theorem Behind.pollFeed (h : w.Behind inner w') {f f' : Feed} (hf : f.Behind inner.length f') :
    Both inner (Poll.Behind (SourceItem.Behind inner.length)) (Scenario.pollFeed f w)
      (Scenario.pollFeed f' w') := by
  obtain ⟨k⟩ := hf
  obtain ⟨hpoll, hw⟩ := h.pollSource k (w.sourceRest k)
  obtain ⟨hpoll', hw'⟩ := pollFeed_relayed (.source k) inner.length w'
  change Poll.Behind _ (Scenario.pollSource k (w'.sourceRest k) w').1 _ at hpoll'
  change _ = (Scenario.pollSource k (w'.sourceRest k) w').2 at hw'
  rw [h.sourceRest, hpoll] at hpoll'
  rw [h.sourceRest] at hw'
  refine ⟨hpoll', ?_⟩
  rw [hw']
  exact hw

/-! ## calls -/

theorem Behind.takePayload (h : w.Behind inner w') (r : Request) :
    (Scenario.takePayload r w).Behind inner (Scenario.takePayload r w') := by
  unfold Scenario.takePayload
  split
  case h_1 c hc =>
    match w.takeCell c, w'.takeCell c, h.takeCell c with
    | (none, w), (_, w'), ⟨rfl, hw⟩ => exact hw.note (.same _ rfl)
    | (some k, w), (_, w'), ⟨rfl, hw⟩ => exact (hw.note (.same _ rfl)).note (.same _ rfl)
  case h_2 => exact h.note (.same _ rfl)

theorem Behind.respond (h : w.Behind inner w') (r : Reply) :
    Alike inner (Scenario.respond r w) (Scenario.respond r w') := by
  unfold Scenario.respond
  cases r.body with
  | none => exact ⟨rfl, h⟩
  | some as =>
    obtain ⟨hk, hw⟩ := h.addSource as
    refine ⟨?_, hw⟩
    dsimp only
    rw [hk]

theorem bare_respond (r : Reply) (w : World) : Bare (.ok (Scenario.respond r w).1) := by
  rintro resp ⟨⟩ f hf
  unfold Scenario.respond at hf
  cases hb : r.body with
  | none =>
    rw [hb] at hf
    cases hf
  | some as =>
    rw [hb] at hf
    cases hf
    exact ⟨_, rfl⟩

theorem Behind.pollCall (h : w.Behind inner w') (r : Request) (lines : List CallAction) :
    (Scenario.pollCall r lines w').1 = (Scenario.pollCall r lines w).1 ∧
      Alike inner (Scenario.pollCall r lines w).2 (Scenario.pollCall r lines w').2 := by
  induction lines generalizing w w' with
  | nil => exact ⟨rfl, rfl, h⟩
  | cons a rest ih =>
    cases a with
    | respond reply =>
      obtain ⟨hresp, hw⟩ := h.respond reply
      refine ⟨?_, rfl, hw⟩
      change Poll.ready (Except.ok (Scenario.respond reply w').1) = _
      rw [hresp]
      rfl
    | fail f => exact ⟨rfl, rfl, h⟩
    | hang => exact ⟨rfl, rfl, h⟩
    | breakDown b => exact ⟨rfl, rfl, h⟩
    | deed d => exact ih (h.doDeed d)
    | take => exact ih (h.takePayload r)
    | gate g =>
      unfold Scenario.pollCall
      rw [h.isOpen]
      split
      · exact ih h
      · exact ⟨rfl, rfl, h.waitAtGate g⟩
    | wait j =>
      cases j with
      | zero => exact ih h
      | succ j => exact ⟨rfl, rfl, h.rest⟩

theorem bare_pollCall (r : Request) (lines : List CallAction) (w : World) {o : Refetch.Outcome}
    (ho : (Scenario.pollCall r lines w).1 = .ready o) : Bare o := by
  have hfail (f : Failure) : Bare (.error f) := fun resp h => by cases h
  induction lines generalizing w with
  | nil =>
    cases ho
    exact hfail _
  | cons a rest ih =>
    cases a with
    | respond reply =>
      cases ho
      exact bare_respond reply w
    | fail f =>
      cases ho
      exact hfail f
    | hang => cases ho
    | breakDown b => cases ho
    | deed d => exact ih _ ho
    | take => exact ih _ ho
    | gate g =>
      unfold Scenario.pollCall at ho
      split at ho
      · exact ih _ ho
      · cases ho
    | wait j =>
      cases j with
      | zero => exact ih _ ho
      | succ j => cases ho

theorem Behind.beginCall (h : w.Behind inner w') (r : Request) (c : Context) :
    Alike inner (Scenario.beginCall r c w) (Scenario.beginCall r c w') := by
  unfold Scenario.beginCall
  simp only [h.cell, h.on]
  generalize CallNote.mk r _ c _ = call
  have hn := h.note (.same (.attempt call) rfl)
  rw [hn.script]
  split
  · exact ⟨rfl, { hn with script := rfl }⟩
  · exact ⟨rfl, hn⟩

/-! ## programs -/

/-- what a program comes to, and what is left of it -/
structure Polled (inner : List Config) (R : α → β → Prop) (x : Poll α × Running α × World)
    (x' : Poll β × Running β × World) : Prop where
  answer : x.1.Behind R x'.1
  left : x.2.1.Behind inner.length R x'.2.1
  world : x.2.2.Behind inner x'.2.2

theorem pollProgram_none (r : Request) (c : Context) (k : Refetch.Outcome → Program α) (w : World) :
    Scenario.pollProgram (.call r c k) none w =
      Scenario.pollProgram (.call r c k) (some (Scenario.beginCall r c w).1)
        (Scenario.beginCall r c w).2 := by
  unfold Scenario.pollProgram
  rfl

theorem Behind.pollProgram {R : α → β → Prop} {p : Program α} {p' : Program β}
    (hp : p.Behind inner.length R p') (lines : Option (List CallAction))
    (h : w.Behind inner w') :
    Polled inner R (Scenario.pollProgram p lines w) (Scenario.pollProgram p' lines w') := by
  -- on the two programs: a call comes to the same in both worlds, and its outcome is bare
  induction hp generalizing lines w w' with
  | done hab => exact ⟨.ready hab, ⟨.done hab, rfl⟩, h⟩
  | spawn ha hk ih =>
    obtain ⟨hout, hw⟩ := h.spawn ha
    unfold Scenario.pollProgram
    dsimp only
    rw [hout]
    exact ih _ none hw
  | @call r c k k' hk ih =>
    have hbegun : ∀ as w w', Behind inner w w' → Polled inner R
        (Scenario.pollProgram (.call r c k) (some as) w)
        (Scenario.pollProgram (.call r c k') (some as) w') := by
      intro as w w' h
      have hbare := fun o => bare_pollCall r as w (o := o)
      unfold Scenario.pollProgram
      dsimp only
      match Scenario.pollCall r as w, Scenario.pollCall r as w', h.pollCall r as, hbare with
      | (.ready o, rest, w), (_, _, w'), ⟨rfl, rfl, hw⟩, hbare => exact ih o (hbare o rfl) none hw
      | (.pending, rest, w), (_, _, w'), ⟨rfl, rfl, hw⟩, _ =>
        exact ⟨.pending, ⟨.call r c hk, rfl⟩, hw⟩
      | (.broken b, rest, w), (_, _, w'), ⟨rfl, rfl, hw⟩, _ =>
        exact ⟨.broken b, ⟨.call r c hk, rfl⟩, hw⟩
    cases lines with
    | some as => exact hbegun as w w' h
    | none =>
      obtain ⟨hlines, hw⟩ := h.beginCall r c
      rw [pollProgram_none, pollProgram_none, hlines]
      exact hbegun _ _ _ hw

theorem Behind.poll {R : α → β → Prop} {p : Running α} {p' : Running β}
    (hp : p.Behind inner.length R p') (h : w.Behind inner w') :
    Polled inner R (p.poll w) (p'.poll w') := by
  unfold Running.poll
  rw [hp.2]
  exact h.pollProgram hp.1 p.lines

/-! ## log and pauses -/

theorem Behind.logEvent (h : w.Behind inner w') {r r' : LogRecord} (hr : r.Behind inner.length r') :
    Alike inner (w.logEvent r) (w'.logEvent r') := by
  have hcount : Behind inner { w with logCalls := w.logCalls + 1 }
      { w' with log := w.log, logCalls := w.logCalls + 1 } := { h with log := rfl, logCalls := rfl }
  unfold World.logEvent
  rw [h.logCalls, hr.event]
  dsimp only
  rw [h.log]
  split
  · exact ⟨rfl, hcount.note (.logged hr)⟩
  · exact ⟨rfl, hcount.note (.same _ rfl)⟩
  · exact ⟨rfl, hcount.note (.logged hr)⟩
  · exact ⟨rfl, hcount.note (.logged hr)⟩
  · refine ⟨rfl, ?_⟩
    dsimp only
    split
    · exact hcount.note (.traced hr)
    · exact hcount

theorem Behind.beginPause (h : w.Behind inner w') (d : Delay) :
    Alike inner (w.beginPause d) (w'.beginPause d) := by
  have hnoted := h.note (.same (.delay d.ms.toNat) rfl)
  unfold World.beginPause
  rw [h.pauses, h.dueMoment]
  split
  · exact ⟨rfl, hnoted⟩
  · exact ⟨rfl, hnoted⟩
  · exact ⟨rfl, hnoted⟩
  · exact ⟨rfl, hnoted⟩
  · exact ⟨rfl, h⟩

theorem Behind.isOver (h : w.Behind inner w') (p : Pause) : w'.isOver p = w.isOver p := by
  unfold World.isOver
  rw [h.clock]
  cases p with
  | untilOpen g => exact h.isOpen g
  | _ => rfl

theorem Behind.waitFor (h : w.Behind inner w') (p : Pause) :
    (w.waitFor p).Behind inner (w'.waitFor p) := by
  cases p with
  | «until» moment => exact h.waitForClock moment
  | untilOpen g => exact h.waitAtGate g
  | never => exact h
  | passed => exact h

end World

end Refetch.Scenario

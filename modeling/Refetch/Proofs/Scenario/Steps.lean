import Refetch.Proofs.Scenario.Turns
/-!
# Steps of a consumer in the two worlds

A consumer takes its steps in a world without inner stages and in the same world with them:

* `Report.Behind`         what comes of a step in both;
* `World.Behind.await`    waiting takes the two worlds alike;
* `World.Behind.next`, `collect`, `execute`   so does what a consumer asks for;
* `World.Behind.act`      and so does every step.
-/

namespace Refetch.Scenario

open List (Forall₂)

variable {n : Nat} {inner : List Config} {w w' : World}

/-! ## reports -/

inductive ItemReport.Behind (n : Nat) : ItemReport → ItemReport → Prop where
  | chunk (c : Bytes) : Behind n (.chunk c) (.chunk c)
  | error {e e' : StageError} (h : e.Behind n e') : Behind n (.error e) (.error e')
  | finish : Behind n .finish .finish
  | pending : Behind n .pending .pending
  | broken (b : Breakdown) : Behind n (.broken b) (.broken b)
  | gone : Behind n .gone .gone

inductive Report.Behind (n : Nat) : Report → Report → Prop where
  | delivered {d d' : Delivery} (h : d.Behind n d') : Behind n (.delivered d) (.delivered d')
  | error {e e' : StageError} (h : e.Behind n e') : Behind n (.error e) (.error e')
  | broken (b : Breakdown) : Behind n (.broken b) (.broken b)
  | pending : Behind n .pending .pending
  | item {i i' : ItemReport} (h : i.Behind n i') : Behind n (.item i) (.item i')
  | items {is is' : List ItemReport} (h : Forall₂ (ItemReport.Behind n) is is') :
      Behind n (.items is) (.items is')
  | bytes (b : Bytes) : Behind n (.bytes b) (.bytes b)
  | truth (b : Bool) : Behind n (.truth b) (.truth b)
  | word (s : String) : Behind n (.word s) (.word s)
  | nothing : Behind n .nothing .nothing

theorem ItemReport.Behind.isChunk {i i' : ItemReport} (h : i.Behind n i') :
    i'.isChunk = i.isChunk := by
  cases h <;> rfl

theorem behind_ofItem {i i' : Option Item} (h : Option.Rel (Item.Behind n) i i') :
    (ItemReport.ofItem i).Behind n (.ofItem i') := by
  cases h with
  | none => exact .finish
  | some hi =>
    cases hi with
    | chunk c => exact .chunk c
    | error he => exact .error he

namespace World

/-! ## waiting -/

section
variable {α β : Type} {R : α → α → Prop} {S : β → β → Prop}
  {poll poll' : β → World → (α ⊕ β) × World}

theorem Behind.awaitWith (h : w.Behind inner w')
    (hpoll : ∀ b b' w w', S b b' → Behind inner w w' →
      Both inner (Sum.LiftRel R S) (poll b w) (poll' b' w'))
    (fuel : Nat) {b b' : β} (hb : S b b') :
    Both inner (Sum.LiftRel R S) (World.awaitWith poll fuel b w)
      (World.awaitWith poll' fuel b' w') := by
  induction fuel generalizing b b' w w' with
  | zero => exact ⟨.inr hb, h⟩
  | succ fuel ih =>
    unfold World.awaitWith
    match poll b w, poll' b' w', hpoll b b' w w' hb h with
    | (_, w), (_, w'), ⟨.inl ha, hw⟩ => exact ⟨.inl ha, hw⟩
    | (_, w), (_, w'), ⟨.inr hb, hw⟩ =>
      dsimp only
      rw [hw.isIdle]
      split
      · exact ⟨.inr hb, hw⟩
      · exact ih hw.drain hb

theorem Behind.await (h : w.Behind inner w')
    (hpoll : ∀ b b' w w', S b b' → Behind inner w w' →
      Both inner (Sum.LiftRel R S) (poll b w) (poll' b' w'))
    {b b' : β} (hb : S b b') :
    Both inner (Sum.LiftRel R S) (World.await poll b w) (World.await poll' b' w') := by
  unfold World.await
  rw [h.limit]
  exact h.awaitWith hpoll w.limit hb

end

/-! ## bodies -/

theorem Behind.pollBody (h : w.Behind inner w') {b b' : Body} (hb : b.Behind inner.length b') :
    Both inner (Poll.Behind (Option.Rel (Item.Behind inner.length))) (Scenario.pollBody b w)
      (Scenario.pollBody b' w') := by
  cases hb with
  | wrapped out => exact h.pollOutput out
  | unwrapped hf =>
    obtain ⟨hanswer, hw⟩ := h.pollFeed hf
    refine ⟨hanswer.map fun i i' hi => ?_, hw⟩
    cases hi with
    | chunk c => exact .some (.chunk c)
    | failure f =>
      dsimp only
      rw [Failure.normalize_relayed]
      exact .some (.error (.stream _))
    | finish => exact .none

theorem Behind.pollItem (h : w.Behind inner w') {b b' : Body} (hb : b.Behind inner.length b') :
    Both inner (Sum.LiftRel (ItemReport.Behind inner.length) fun _ _ => True)
      (World.pollItem b () w) (World.pollItem b' () w') := by
  unfold World.pollItem
  match Scenario.pollBody b w, Scenario.pollBody b' w', h.pollBody hb with
  | (_, w), (_, w'), ⟨.ready hi, hw⟩ => exact ⟨.inl (behind_ofItem hi), hw⟩
  | (_, w), (_, w'), ⟨.broken b, hw⟩ => exact ⟨.inl (.broken b), hw⟩
  | (_, w), (_, w'), ⟨.pending, hw⟩ => exact ⟨.inr trivial, hw⟩

theorem Behind.next (h : w.Behind inner w') (s : Slot) :
    Both inner (ItemReport.Behind inner.length) (w.next s) (w'.next s) := by
  unfold World.next
  match w.body? s, w'.body? s, h.body? s with
  | _, _, .none => exact ⟨.gone, h⟩
  | some b, some b', .some hb =>
    have hpoll : ∀ u u' v v', True → Behind inner v v' →
        Both inner (Sum.LiftRel (ItemReport.Behind inner.length) fun _ _ => True)
          (World.pollItem b u v) (World.pollItem b' u' v') :=
      fun _ _ _ _ _ hv => hv.pollItem hb
    dsimp only
    match (w.clearSlot s).await (World.pollItem b) (),
      (w'.clearSlot s).await (World.pollItem b') (), (h.clearSlot s).await hpoll trivial with
    | (_, w), (_, w'), ⟨.inr _, hw⟩ => exact ⟨.pending, hw.putBack s hb⟩
    | (_, w), (_, w'), ⟨.inl hi, hw⟩ =>
      cases hi with
      | broken d => exact ⟨.broken d, hw.dropBody hb⟩
      | chunk c => exact ⟨.chunk c, hw.putBack s hb⟩
      | error he => exact ⟨.error he, hw.putBack s hb⟩
      | finish => exact ⟨.finish, hw.putBack s hb⟩
      | pending => exact ⟨.pending, hw.putBack s hb⟩
      | gone => exact ⟨.gone, hw.putBack s hb⟩

theorem Behind.itemsWith (h : w.Behind inner w') (fuel : Nat) (s : Slot) :
    Both inner (Forall₂ (ItemReport.Behind inner.length)) (World.itemsWith fuel w s)
      (World.itemsWith fuel w' s) := by
  induction fuel generalizing w w' with
  | zero => exact ⟨.nil, h⟩
  | succ fuel ih =>
    unfold World.itemsWith
    match w.next s, w'.next s, h.next s with
    | (i, w), (i', w'), ⟨hi, hw⟩ =>
      dsimp only at hi ⊢
      rw [hi.isChunk]
      split
      · obtain ⟨his, hw⟩ := ih hw.settle
        exact ⟨.cons hi his, hw⟩
      · exact ⟨.cons hi .nil, hw.settle⟩

theorem Behind.gatherWith (fuel : Nat) {b b' : Body} (hb : b.Behind inner.length b')
    (cs : List Bytes) (h : w.Behind inner w') :
    Both inner (Sum.LiftRel (Report.Behind inner.length) fun cs cs' => cs' = cs)
      (World.gatherWith fuel b cs w) (World.gatherWith fuel b' cs w') := by
  induction fuel generalizing cs w w' with
  | zero => exact ⟨.inr rfl, h⟩
  | succ fuel ih =>
    unfold World.gatherWith
    match Scenario.pollBody b w, Scenario.pollBody b' w', h.pollBody hb with
    | (_, w), (_, w'), ⟨.pending, hw⟩ => exact ⟨.inr rfl, hw⟩
    | (_, w), (_, w'), ⟨.broken d, hw⟩ => exact ⟨.inl (.broken d), hw⟩
    | (_, w), (_, w'), ⟨.ready .none, hw⟩ => exact ⟨.inl (.bytes _), hw⟩
    | (_, w), (_, w'), ⟨.ready (.some (.chunk c)), hw⟩ => exact ih (c :: cs) hw
    | (_, w), (_, w'), ⟨.ready (.some (.error he)), hw⟩ => exact ⟨.inl (.error he), hw⟩

theorem Behind.collect (h : w.Behind inner w') (s : Slot) :
    Both inner (Report.Behind inner.length) (w.collect s) (w'.collect s) := by
  unfold World.collect
  rw [h.limit]
  match w.body? s, w'.body? s, h.body? s with
  | _, _, .none => exact ⟨.item .gone, h⟩
  | some b, some b', .some hb =>
    have hgather : ∀ cs cs' v v', cs' = cs → Behind inner v v' →
        Both inner (Sum.LiftRel (Report.Behind inner.length) fun cs cs' => cs' = cs)
          (World.gatherWith w.limit b cs v) (World.gatherWith w.limit b' cs' v') := by
      rintro cs _ v v' rfl hv
      exact hv.gatherWith w.limit hb _
    dsimp only
    match (w.clearSlot s).await (World.gatherWith w.limit b) [],
      (w'.clearSlot s).await (World.gatherWith w.limit b') [],
      (h.clearSlot s).await hgather (Eq.refl []) with
    | (_, w), (_, w'), ⟨.inl hr, hw⟩ => exact ⟨hr, hw.dropBody hb⟩
    | (_, w), (_, w'), ⟨.inr _, hw⟩ => exact ⟨.pending, hw.dropBody hb⟩

/-! ## requests -/

theorem Behind.addUpload (h : w.Behind inner w') (u : Upload) :
    Alike inner (w.addUpload u) (w'.addUpload u) := by
  cases u with
  | whole p => exact ⟨rfl, h⟩
  | stream as =>
    obtain ⟨hk, hw⟩ := h.addSource as
    obtain ⟨hc, hw⟩ := hw.addCell (w.addSource as).1
    unfold World.addUpload
    dsimp only
    rw [hk]
    exact ⟨congrArg Payload.stream hc, hw⟩

inductive Ended (n : Nat) : Except Breakdown Executed → Except Breakdown Executed → Prop where
  | executed {x x' : Executed} (h : x.Behind n x') : Ended n (.ok x) (.ok x')
  | broken (b : Breakdown) : Ended n (.error b) (.error b)

theorem Behind.pollExecuted (h : w.Behind inner w') {p p' : Running Executed}
    (hp : p.Behind inner.length (Executed.Behind inner.length) p') :
    Both inner (Sum.LiftRel (Ended inner.length)
      (Running.Behind inner.length (Executed.Behind inner.length)))
      (World.pollExecuted p w) (World.pollExecuted p' w') := by
  unfold World.pollExecuted
  match p.poll w, p'.poll w', h.poll hp with
  | (_, _, w), (_, _, w'), ⟨.ready hx, _, hw⟩ => exact ⟨.inl (.executed hx), hw⟩
  | (_, _, w), (_, _, w'), ⟨.broken b, _, hw⟩ => exact ⟨.inl (.broken b), hw⟩
  | (_, _, w), (_, _, w'), ⟨.pending, hleft, hw⟩ => exact ⟨.inr hleft, hw⟩

theorem Behind.execute (h : w.Behind inner w') (config : Config) (s : Slot) (e : Execution) :
    Both inner (Report.Behind inner.length) (w.execute config s e)
      (w'.execute config s e) := by
  unfold World.execute
  obtain ⟨habort, hw⟩ := h.addAbort s e.requestSignal e.contextSignal
  generalize w.addAbort s e.requestSignal e.contextSignal = x at habort hw ⊢
  generalize w'.addAbort s e.requestSignal e.contextSignal = x' at habort hw ⊢
  obtain ⟨abort, w⟩ := x
  obtain ⟨_, w'⟩ := x'
  cases habort
  obtain ⟨hpayload, hw⟩ := hw.addUpload e.upload
  dsimp only at hpayload hw ⊢
  generalize w.addUpload e.upload = x at hpayload hw ⊢
  generalize w'.addUpload e.upload = x' at hpayload hw ⊢
  obtain ⟨payload, w⟩ := x
  obtain ⟨_, w'⟩ := x'
  cases hpayload
  dsimp only at hw ⊢
  generalize (⟨e.method, e.url, e.fields, payload⟩ : Request) = r
  generalize (⟨abort, e.active, e.requestId⟩ : Context) = c
  have hp : Running.Behind inner.length (Executed.Behind inner.length)
      ⟨Stage.execute config (Stage.stack w.inner) r c, none⟩
      ⟨Stage.execute config (Stage.stack w'.inner) r c, none⟩ := by
    rw [hw.alone, hw.stacked]
    exact ⟨Stage.execute_behind config inner r c, rfl⟩
  match w.await World.pollExecuted _, w'.await World.pollExecuted _,
    hw.await (fun p p' _ _ hp h => h.pollExecuted hp) hp with
  | (_, w), (_, w'), ⟨.inr _, hw⟩ => exact ⟨.pending, hw.releaseRequest r⟩
  | (_, w), (_, w'), ⟨.inl (.broken b), hw⟩ => exact ⟨.broken b, hw.releaseRequest r⟩
  | (_, w), (_, w'), ⟨.inl (.executed (.error he)), hw⟩ => exact ⟨.error he, hw.releaseRequest r⟩
  | (.inl (.ok (.ok d)), w), (.inl (.ok (.ok d')), w'), ⟨.inl (.executed (.ok hd)), hw⟩ =>
    have hkept : Behind inner (if d.isWrapped then w else w.releaseRequest r)
        (if d'.isWrapped then w' else w'.releaseRequest r) := by
      rw [hd.isWrapped]
      split
      · exact hw
      · exact hw.releaseRequest r
    refine ⟨.delivered hd, ?_⟩
    dsimp only
    match d.body, d'.body, hd.body with
    | _, _, .none => exact hkept
    | some b, some b', .some hb => exact hkept.fillSlot s hb

/-! ## steps -/

theorem Behind.isClosed (h : w.Behind inner w') {b b' : Body} (hb : b.Behind inner.length b') :
    w'.isClosed b' = w.isClosed b := by
  cases hb with
  | unwrapped hf => rfl
  | wrapped out =>
    unfold World.isClosed
    dsimp only
    match w.tasks[out]?, w'.tasks[out]?, h.task out with
    | _, _, .none => rfl
    | some t, some t', .some ht => exact ht.output.closed

/-- a word with the world after it, as a report -/
theorem reported_word {x x' : String × World} (h : Alike inner x x') :
    Both inner (Report.Behind inner.length) (.word x.1, x.2) (.word x'.1, x'.2) := by
  refine ⟨?_, h.2⟩
  rw [h.1]
  exact .word _

/-- one step of the consumer takes the two worlds alike -/
theorem Behind.act (h : w.Behind inner w') (config : Config) (step : Step) :
    Both inner (Report.Behind inner.length) (w.act config step) (w'.act config step) := by
  cases step with
  | execute s e => exact h.execute config s e
  | next s =>
    obtain ⟨hi, hw⟩ := h.next s
    exact ⟨.item hi, hw⟩
  | drain s =>
    obtain ⟨his, hw⟩ := h.itemsWith w.limit s
    unfold World.act World.items
    rw [h.limit]
    exact ⟨.items his, hw⟩
  | collect s => exact h.collect s
  | close s => exact reported_word (h.close s)
  | drop s => exact reported_word (h.drop s)
  | abort s which => exact reported_word (h.abort s which)
  | isClosed s =>
    refine ⟨?_, h⟩
    unfold World.act
    dsimp only
    match w.body? s, w'.body? s, h.body? s with
    | _, _, .none => exact .item .gone
    | some _, some _, .some (.wrapped out) =>
      dsimp only
      rw [h.isClosed (.wrapped out)]
      exact .truth _
    | some _, some _, .some (.unwrapped hf) => exact .word _
  | inspect s =>
    refine ⟨?_, h⟩
    unfold World.act
    dsimp only
    match w.body? s, w'.body? s, h.body? s with
    | _, _, .none => exact .item .gone
    | some b, some b', .some hb =>
      dsimp only
      rw [h.isClosed hb]
      cases hb with
      | wrapped out => exact .word _
      | unwrapped hf => exact .word _
  | openGate g => exact ⟨.nothing, h.openGate g⟩
  | advance ms => exact ⟨.nothing, h.passTime ms⟩

end World

end Refetch.Scenario

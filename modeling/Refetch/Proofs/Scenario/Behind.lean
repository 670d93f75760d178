import Refetch.Scenario.Run
import Refetch.Proofs.Stage.Behind
import Mathlib.Data.List.Forall2
/-!
# Two worlds, one without inner stages

A scenario is played in two worlds side by side: one where the stage stands over the transport, and
one where `inner` stages stand between them.

* `Output.Behind`, `Task.Behind`   an output and a driver in both;
* `Entry.Behind`                   what is noted in both;
* `World.Behind`                   the two worlds: all else is equal;
* `World.Behind.rouse` and so on   what is done to both alike keeps them so.
-/

namespace Refetch

open List (Forall₂)

/-! ## lists that are related item by item -/

section
variable {α β : Type} {R : α → β → Prop} {l : List α} {l' : List β}

theorem forall₂_getElem? (h : Forall₂ R l l') (i : Nat) : Option.Rel R l[i]? l'[i]? := by
  induction h generalizing i with
  | nil => exact .none
  | cons hab _ ih =>
    cases i with
    | zero => exact .some hab
    | succ i => exact ih i

theorem forall₂_modify (h : Forall₂ R l l') (i : Nat) {f : α → α} {f' : β → β}
    (hf : ∀ a b, R a b → R (f a) (f' b)) : Forall₂ R (l.modify i f) (l'.modify i f') := by
  induction h generalizing i with
  | nil => cases i <;> exact .nil
  | cons hab hl ih =>
    cases i with
    | zero => exact .cons (hf _ _ hab) hl
    | succ i => exact .cons hab (ih i)

theorem forall₂_filter (h : Forall₂ R l l') {p : α → Bool} {p' : β → Bool}
    (hp : ∀ a b, R a b → p' b = p a) : Forall₂ R (l.filter p) (l'.filter p') := by
  refine List.rel_filter (fun a b hab => ?_) h
  change p a = true ↔ p' b = true
  rw [hp a b hab]

theorem forall₂_find? (h : Forall₂ R l l') {p : α → Bool} {p' : β → Bool}
    (hp : ∀ a b, R a b → p' b = p a) : Option.Rel R (l.find? p) (l'.find? p') := by
  induction h with
  | nil => exact .none
  | @cons a b _ _ hab _ ih =>
    rw [List.find?_cons, List.find?_cons, hp a b hab]
    cases p a with
    | true => exact .some hab
    | false => exact ih

theorem forall₂_map_eq {γ : Type} (h : Forall₂ R l l') {f : α → γ} {f' : β → γ}
    (hf : ∀ a b, R a b → f a = f' b) : l.map f = l'.map f' := by
  have hmap : Forall₂ Eq (l.map f) (l'.map f') := List.rel_map (fun a b hab => hf a b hab) h
  rwa [List.forall₂_eq_eq_eq] at hmap

theorem forall₂_filterMap_eq {γ : Type} (h : Forall₂ R l l') {f : α → Option γ}
    {f' : β → Option γ} (hf : ∀ a b, R a b → f a = f' b) : l.filterMap f = l'.filterMap f' := by
  have hmap := congrArg (List.filterMap id) (forall₂_map_eq h hf)
  rw [List.filterMap_map, List.filterMap_map] at hmap
  exact hmap

theorem forall₂_push (h : Forall₂ R l l') {a : α} {b : β} (hab : R a b) :
    Forall₂ R (l ++ [a]) (l' ++ [b]) :=
  List.rel_append h (.cons hab .nil)

end

/-! ## outputs -/

structure Output.Behind (n : Nat) (o o' : Output) : Prop where
  queue : Forall₂ (Item.Behind n) o.queue o'.queue
  closed : o'.closed = o.closed
  ended : o'.ended = o.ended

inductive Offer.Behind (n : Nat) : Offer → Offer → Prop where
  | taken {o o' : Output} (h : o.Behind n o') : Behind n (.taken o) (.taken o')
  | refused : Behind n .refused .refused
  | full : Behind n .full .full

inductive Next.Behind (n : Nat) : Next → Next → Prop where
  | item {i i' : Item} (h : Item.Behind n i i') : Behind n (.item i) (.item i')
  | finish : Behind n .finish .finish
  | pending : Behind n .pending .pending

namespace Output

variable {n : Nat} {o o' : Output}

theorem Behind.close (h : o.Behind n o') : o.close.Behind n o'.close :=
  ⟨h.queue, rfl, h.ended⟩

theorem Behind.finish (h : o.Behind n o') : o.finish.Behind n o'.finish :=
  ⟨h.queue, h.closed, rfl⟩

theorem Behind.offer (h : o.Behind n o') {i i' : Item} (hi : Item.Behind n i i') :
    (o.offer i).Behind n (o'.offer i') := by
  unfold Output.offer hasRoom
  rw [h.closed, h.queue.length_eq]
  split
  · exact .refused
  · split
    · exact .taken ⟨forall₂_push h.queue hi, h.closed, h.ended⟩
    · exact .full

theorem Behind.next (h : o.Behind n o') :
    o.next.1.Behind n o'.next.1 ∧ o.next.2.Behind n o'.next.2 := by
  unfold Output.next
  rw [h.closed, h.ended]
  split
  · exact ⟨.finish, h⟩
  · match o.queue, o'.queue, h.queue with
    | [], [], .nil =>
      refine ⟨?_, h⟩
      dsimp only
      split
      · exact .finish
      · exact .pending
    | i :: rest, i' :: rest', .cons hi hrest => exact ⟨.item hi, hrest, rfl, rfl⟩

end Output

namespace Scenario

/-! ## drivers, notes and bodies -/

/-- a program under way, with `n` stages more -/
def Running.Behind (n : Nat) {α β : Type} (R : α → β → Prop) (p : Running α) (p' : Running β) :
    Prop :=
  p.program.Behind n R p'.program ∧ p'.lines = p.lines

/-- a driver with its output, with `n` stages more -/
structure Task.Behind (n : Nat) (t t' : Task) : Prop where
  driver : t.driver.Behind n t'.driver
  output : t.output.Behind n t'.output
  pause : t'.pause = t.pause
  call : Option.Rel (Running.Behind n (Heard n)) t.call t'.call
  reader : t'.reader = t.reader
  isOver : t'.isOver = t.isOver

def Entry.record? : Entry → Option LogRecord
  | .logged r | .traced r => some r
  | .attempt _ | .read .. | .release _ | .delay _ | .named _ | .took _ | .deed .. => none

/-- something noted, with `n` stages more -/
inductive Entry.Behind (n : Nat) : Entry → Entry → Prop where
  /-- it tells of no record -/
  | same (e : Entry) (h : e.record? = none) : Behind n e e
  | logged {r r' : LogRecord} (h : r.Behind n r') : Behind n (.logged r) (.logged r')
  | traced {r r' : LogRecord} (h : r.Behind n r') : Behind n (.traced r) (.traced r')

/-- a body in its slot, with `n` stages more -/
def Kept (n : Nat) (p p' : Slot × Body) : Prop := p'.1 = p.1 ∧ p.2.Behind n p'.2

/-- a world without inner stages, and the same world with inner stages -/
structure World.Behind (inner : List Config) (w w' : World) : Prop where
  alone : w.inner = []
  stacked : w'.inner = inner
  log : w'.log = w.log
  pauses : w'.pauses = w.pauses
  limit : w'.limit = w.limit
  mover : w'.mover = w.mover
  due : w'.due = w.due
  resting : w'.resting = w.resting
  atGates : w'.atGates = w.atGates
  timers : w'.timers = w.timers
  clock : w'.clock = w.clock
  opened : w'.opened = w.opened
  on : w'.on = w.on
  signals : w'.signals = w.signals
  script : w'.script = w.script
  sources : w'.sources = w.sources
  cells : w'.cells = w.cells
  tasks : Forall₂ (Task.Behind inner.length) w.tasks w'.tasks
  bodies : Forall₂ (Kept inner.length) w.bodies w'.bodies
  aborts : w'.aborts = w.aborts
  logCalls : w'.logCalls = w.logCalls
  notes : Forall₂ (Entry.Behind inner.length) w.notes w'.notes

/-- related answers, with the two worlds after them -/
def Both (inner : List Config) {α β : Type} (R : α → β → Prop) (x : α × World) (x' : β × World) :
    Prop :=
  R x.1 x'.1 ∧ x.2.Behind inner x'.2

/-- equal answers, with the two worlds after them -/
def Alike (inner : List Config) {α : Type} (x x' : α × World) : Prop :=
  x'.1 = x.1 ∧ x.2.Behind inner x'.2

namespace World

variable {inner : List Config} {w w' : World}

theorem Behind.note (h : w.Behind inner w') {e e' : Entry} (he : e.Behind inner.length e') :
    (w.note e).Behind inner (w'.note e') :=
  { h with notes := .cons he h.notes }

theorem Behind.isOpen (h : w.Behind inner w') (g : Gate) : w'.isOpen g = w.isOpen g := by
  unfold World.isOpen
  rw [h.opened]

theorem Behind.isIdle (h : w.Behind inner w') : w'.isIdle = w.isIdle := by
  unfold World.isIdle
  rw [h.due, h.resting]

/-! ## turns -/

theorem Behind.rouse (h : w.Behind inner w') (n : OutputId) :
    (w.rouse n).Behind inner (w'.rouse n) := by
  unfold World.rouse
  rw [h.due]
  split
  · exact h
  · exact { h with due := rfl }

theorem Behind.rouseAll (h : w.Behind inner w') (ns : List OutputId) :
    (w.rouseAll ns).Behind inner (w'.rouseAll ns) := by
  induction ns generalizing w w' with
  | nil => exact h
  | cons n ns ih => exact ih (h.rouse n)

theorem Behind.rest (h : w.Behind inner w') : w.rest.Behind inner w'.rest := by
  unfold World.rest
  rw [h.mover, h.resting]
  exact { h with mover := rfl, resting := rfl }

theorem Behind.wakeResting (h : w.Behind inner w') : w.wakeResting.Behind inner w'.wakeResting := by
  unfold World.wakeResting
  rw [h.resting]
  refine Behind.rouseAll ?_ _
  exact { h with resting := rfl }

theorem Behind.waitAtGate (h : w.Behind inner w') (g : Gate) :
    (w.waitAtGate g).Behind inner (w'.waitAtGate g) := by
  unfold World.waitAtGate
  rw [h.mover, h.atGates]
  split
  · split
    · exact h
    · exact { h with mover := rfl, atGates := rfl }
  · exact h

theorem Behind.openGate (h : w.Behind inner w') (g : Gate) :
    (w.openGate g).Behind inner (w'.openGate g) := by
  unfold World.openGate
  rw [h.opened, h.atGates]
  refine Behind.rouseAll ?_ _
  exact { h with opened := rfl, atGates := rfl }

theorem Behind.dueMoment (h : w.Behind inner w') (ms : Nat) : w'.dueMoment ms = w.dueMoment ms := by
  unfold World.dueMoment
  rw [h.clock]

theorem Behind.waitForClock (h : w.Behind inner w') (moment : Nat) :
    (w.waitForClock moment).Behind inner (w'.waitForClock moment) := by
  unfold World.waitForClock
  rw [h.mover, h.timers]
  split
  · split
    · exact h
    · exact { h with mover := rfl, timers := rfl }
  · exact h

theorem Behind.passTime (h : w.Behind inner w') (ms : Nat) :
    (w.passTime ms).Behind inner (w'.passTime ms) := by
  unfold World.passTime
  rw [h.clock, h.timers]
  refine Behind.rouseAll ?_ _
  exact { h with clock := rfl, timers := rfl }

theorem Behind.moving (h : w.Behind inner w') (mover : Option OutputId) :
    Behind inner { w with mover := mover } { w' with mover := mover } :=
  { h with mover := rfl }

/-! ## sources, cells and tasks -/

theorem Behind.addSource (h : w.Behind inner w') (as : List SourceAction) :
    Alike inner (w.addSource as) (w'.addSource as) := by
  unfold World.addSource
  rw [h.sources]
  exact ⟨rfl, { h with sources := rfl }⟩

theorem Behind.sourceRest (h : w.Behind inner w') (k : SourceId) :
    w'.sourceRest k = w.sourceRest k := by
  unfold World.sourceRest
  rw [h.sources]

theorem Behind.setSource (h : w.Behind inner w') (k : SourceId) (as : List SourceAction) :
    (w.setSource k as).Behind inner (w'.setSource k as) := by
  unfold World.setSource
  rw [h.sources]
  exact { h with sources := rfl }

theorem Behind.addCell (h : w.Behind inner w') (k : SourceId) :
    Alike inner (w.addCell k) (w'.addCell k) := by
  unfold World.addCell
  rw [h.cells]
  exact ⟨rfl, { h with cells := rfl }⟩

theorem Behind.cell (h : w.Behind inner w') (c : CellId) : w'.cell c = w.cell c := by
  unfold World.cell
  rw [h.cells]

theorem Behind.takeCell (h : w.Behind inner w') (c : CellId) :
    Alike inner (w.takeCell c) (w'.takeCell c) := by
  unfold World.takeCell
  rw [h.cell, h.cells]
  exact ⟨rfl, { h with cells := rfl }⟩

theorem Behind.task (h : w.Behind inner w') (n : OutputId) :
    Option.Rel (Task.Behind inner.length) w.tasks[n]? w'.tasks[n]? :=
  forall₂_getElem? h.tasks n

theorem Behind.spawn (h : w.Behind inner w') {a a' : Assignment Feed}
    (ha : a.Behind inner.length a') : Alike inner (w.spawn a) (w'.spawn a') := by
  have ht : Task.Behind inner.length { driver := .start a } { driver := .start a' } :=
    ⟨.start ha, ⟨.nil, rfl, rfl⟩, rfl, .none, rfl, rfl⟩
  unfold World.spawn
  rw [← h.tasks.length_eq]
  refine ⟨rfl, Behind.rouse ?_ _⟩
  exact { h with tasks := forall₂_push h.tasks ht }

theorem Behind.mapTask (h : w.Behind inner w') (n : OutputId) {f f' : Task → Task}
    (hf : ∀ t t', t.Behind inner.length t' → (f t).Behind inner.length (f' t')) :
    (w.mapTask n f).Behind inner (w'.mapTask n f') :=
  { h with tasks := forall₂_modify h.tasks n hf }

theorem Behind.closeOutput (h : w.Behind inner w') (n : OutputId) :
    (w.closeOutput n).Behind inner (w'.closeOutput n) := by
  refine Behind.rouse (h.mapTask n fun t t' ht => ?_) n
  exact { ht with output := ht.output.close }

theorem Behind.takeItem (h : w.Behind inner w') (n : OutputId) {t t' : Task}
    (ht : t.Behind inner.length t') {o o' : Output} (ho : o.Behind inner.length o') :
    (w.takeItem n t o).Behind inner (w'.takeItem n t' o') := by
  have hw : Behind inner (w.mapTask n fun t => { t with output := o })
      (w'.mapTask n fun t => { t with output := o' }) := by
    refine h.mapTask n fun t t' ht => ?_
    exact { ht with output := ho }
  unfold World.takeItem
  rw [ht.driver.wantsRoom]
  split
  · exact hw.rouse n
  · exact hw

theorem Behind.waitForItem (h : w.Behind inner w') (n : OutputId) :
    (w.waitForItem n).Behind inner (w'.waitForItem n) := by
  unfold World.waitForItem
  rw [h.mover]
  refine h.mapTask n fun t t' ht => ?_
  exact { ht with reader := rfl }

theorem Behind.setOutput (h : w.Behind inner w') (n : OutputId) {o o' : Output}
    (ho : o.Behind inner.length o') : (w.setOutput n o).Behind inner (w'.setOutput n o') := by
  have hreader : ∀ t t', Option.Rel (Task.Behind inner.length) t t' →
      t'.bind Task.reader = t.bind Task.reader := by
    rintro t t' (ht | _)
    · exact ht.reader
    · rfl
  unfold World.setOutput
  dsimp only
  rw [hreader _ _ (h.task n)]
  refine Behind.rouseAll (h.mapTask n fun t t' ht => ?_) _
  exact { ht with output := ho, reader := rfl }

/-! ## letting go -/

theorem Behind.releaseRequest (h : w.Behind inner w') (r : Request) :
    (w.releaseRequest r).Behind inner (w'.releaseRequest r) := by
  unfold World.releaseRequest
  split
  case h_1 c hc =>
    match w.takeCell c, w'.takeCell c, h.takeCell c with
    | (none, w), (_, w'), ⟨rfl, hw⟩ => exact hw
    | (some k, w), (_, w'), ⟨rfl, hw⟩ => exact hw.note (.same _ rfl)
  case h_2 => exact h

theorem release_relayed (w : World) (f : Feed) (n : Nat) :
    w.release (f.relayed n) = w.release f := by
  induction n with
  | zero => rfl
  | succ n ih => exact ih

theorem Behind.release (h : w.Behind inner w') {f f' : Feed} (hf : f.Behind inner.length f') :
    (w.release f).Behind inner (w'.release f') := by
  obtain ⟨k⟩ := hf
  rw [release_relayed]
  exact h.note (.same _ rfl)

theorem Behind.releaseOption (h : w.Behind inner w') {f f' : Option Feed}
    (hf : Option.Rel (Feed.Behind inner.length) f f') :
    (w.releaseOption f).Behind inner (w'.releaseOption f') := by
  cases hf with
  | none => exact h
  | some hf => exact h.release hf

theorem Behind.dropBody (h : w.Behind inner w') {b b' : Body} (hb : b.Behind inner.length b') :
    (w.dropBody b).Behind inner (w'.dropBody b') := by
  cases hb with
  | wrapped out => exact h.closeOutput out
  | unwrapped hf => exact h.release hf

/-! ## slots -/

theorem Behind.body? (h : w.Behind inner w') (s : Slot) :
    Option.Rel (Body.Behind inner.length) (w.body? s) (w'.body? s) := by
  have hfind : Option.Rel (Kept inner.length) (w.bodies.find? fun p => p.1 == s)
      (w'.bodies.find? fun p => p.1 == s) :=
    forall₂_find? h.bodies fun a b hab => by rw [hab.1]
  unfold World.body?
  match w.bodies.find? _, w'.bodies.find? _, hfind with
  | none, none, .none => exact .none
  | some p, some p', .some hp => exact .some hp.2

theorem Behind.clearSlot (h : w.Behind inner w') (s : Slot) :
    (w.clearSlot s).Behind inner (w'.clearSlot s) :=
  { h with bodies := forall₂_filter h.bodies fun a b hab => by rw [hab.1] }

theorem Behind.putBack (h : w.Behind inner w') (s : Slot) {b b' : Body}
    (hb : b.Behind inner.length b') : (w.putBack s b).Behind inner (w'.putBack s b') :=
  { h with bodies := forall₂_push h.bodies ⟨rfl, hb⟩ }

theorem Behind.fillSlot (h : w.Behind inner w') (s : Slot) {b b' : Body}
    (hb : b.Behind inner.length b') : (w.fillSlot s b).Behind inner (w'.fillSlot s b') := by
  have hfilled := (h.clearSlot s).putBack s hb
  unfold World.fillSlot
  match w.body? s, w'.body? s, h.body? s with
  | none, none, .none => exact hfilled
  | some old, some old', .some hold => exact hfilled.dropBody hold

theorem Behind.close (h : w.Behind inner w') (s : Slot) : Alike inner (w.close s) (w'.close s) := by
  unfold World.close
  match w.body? s, w'.body? s, h.body? s with
  | none, none, .none => exact ⟨rfl, h⟩
  | some _, some _, .some (.wrapped out) => exact ⟨rfl, h.closeOutput out⟩
  | some _, some _, .some (.unwrapped hf) => exact ⟨rfl, h⟩

theorem Behind.drop (h : w.Behind inner w') (s : Slot) : Alike inner (w.drop s) (w'.drop s) := by
  unfold World.drop
  match w.body? s, w'.body? s, h.body? s with
  | none, none, .none => exact ⟨rfl, h⟩
  | some b, some b', .some hb => exact ⟨rfl, (h.clearSlot s).dropBody hb⟩

theorem Behind.abort (h : w.Behind inner w') (s : Slot) (which : Which) :
    Alike inner (w.abort s which) (w'.abort s which) := by
  unfold World.abort World.signal?
  rw [h.aborts, h.on]
  split
  · exact ⟨rfl, { h with aborts := rfl, on := rfl }⟩
  · exact ⟨rfl, h⟩

theorem Behind.perform (h : w.Behind inner w') (d : Deed) :
    Alike inner (w.perform d) (w'.perform d) := by
  cases d with
  | close s => exact h.close s
  | drop s => exact h.drop s
  | abort s which => exact h.abort s which

theorem Behind.doDeed (h : w.Behind inner w') (d : Deed) :
    (w.doDeed d).Behind inner (w'.doDeed d) := by
  obtain ⟨hword, hw⟩ := h.perform d
  unfold World.doDeed
  dsimp only
  rw [hword]
  exact hw.note (.same _ rfl)

/-! ## signals -/

theorem Behind.addSignal (h : w.Behind inner w') (s : Slot) (which : Which) (start : StartSignal) :
    Alike inner (w.addSignal s which start) (w'.addSignal s which start) := by
  unfold World.addSignal
  rw [h.signals, h.on, h.aborts]
  exact ⟨rfl, { h with signals := rfl, on := rfl, aborts := rfl }⟩

theorem Behind.addAbort (h : w.Behind inner w') (s : Slot) (request context : StartSignal) :
    Alike inner (w.addAbort s request context) (w'.addAbort s request context) := by
  obtain ⟨hr, hw⟩ := h.addSignal s .request request
  obtain ⟨hc, hw⟩ := hw.addSignal s .context context
  exact ⟨congrArg₂ Abort.mk hr hc, hw⟩

end World

end Scenario

end Refetch

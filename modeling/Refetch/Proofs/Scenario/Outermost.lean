import Refetch.Proofs.Scenario.Steps
import Refetch.Proofs.Stage.Entry
/-!
# A stack of stages as its outermost stage

A scenario is played with inner stages and without them, and a request is executed by a stack of
stages and by the outermost one alone:

* `Outcome.Behind`, `behind_run`   what a scenario comes to: inner stages only wrap failures;
* `Outcome.calls`, `chunks`        the calls of the transport and the chunks that were handed on;
* `Outermost`                      what a stack does with a request;
* `stack_as_outermost`             a stack is its outermost stage.
-/

namespace Refetch.Scenario

open List (Forall₂)

variable {n : Nat} {inner : List Config} {w w' : World}

/-! ## whole scenarios -/

/-- the report of a step with what was noted during it, with `n` stages more -/
def Told (n : Nat) (x x' : Report × List Entry) : Prop :=
  x.1.Behind n x'.1 ∧ Forall₂ (Entry.Behind n) x.2 x'.2

namespace World

theorem Behind.takeNotes (h : w.Behind inner w') :
    Both inner (Forall₂ (Entry.Behind inner.length)) w.takeNotes w'.takeNotes :=
  ⟨List.rel_reverse h.notes, { h with notes := .nil }⟩

theorem Behind.runSteps (h : w.Behind inner w') (config : Config) (steps : List Step) :
    Both inner (Forall₂ (Told inner.length)) (w.runSteps config steps)
      (w'.runSteps config steps) := by
  induction steps generalizing w w' with
  | nil => exact ⟨.nil, h⟩
  | cons step rest ih =>
    obtain ⟨hr, hw⟩ := h.act config step
    obtain ⟨hnotes, hw⟩ := hw.settle.takeNotes
    obtain ⟨hrest, hw⟩ := ih hw
    exact ⟨.cons ⟨hr, hnotes⟩ hrest, hw⟩

theorem Behind.dropAll (h : w.Behind inner w') : w.dropAll.Behind inner w'.dropAll := by
  have hslots : w.bodies.map Prod.fst = w'.bodies.map Prod.fst :=
    forall₂_map_eq h.bodies fun _ _ hp => hp.1.symm
  unfold World.dropAll
  rw [← hslots]
  generalize (w.bodies.map Prod.fst).mergeSort _ = slots
  dsimp only
  clear hslots
  induction slots generalizing w w' with
  | nil => exact h
  | cons s slots ih => exact ih (h.drop s).2.settle

end World

/-- what comes of a scenario, with `n` stages more -/
structure Outcome.Behind (n : Nat) (o o' : Outcome) : Prop where
  steps : Forall₂ (Told n) o.steps o'.steps
  final : Forall₂ (Entry.Behind n) o.final o'.final
  unused : o'.unused = o.unused

def alone (s : Scenario) : Scenario := { s with inner := [] }

theorem behind_start (s : Scenario) : s.alone.start.Behind s.inner s.start where
  alone := rfl
  stacked := rfl
  log := rfl
  pauses := rfl
  limit := rfl
  mover := rfl
  due := rfl
  resting := rfl
  atGates := rfl
  timers := rfl
  clock := rfl
  opened := rfl
  on := rfl
  signals := rfl
  script := rfl
  sources := rfl
  cells := rfl
  tasks := .nil
  bodies := .nil
  aborts := rfl
  logCalls := rfl
  notes := .nil

/-- a scenario with inner stages comes to what it comes to without them -/
theorem behind_run (s : Scenario) : s.alone.run.Behind s.inner.length s.run := by
  obtain ⟨hsteps, hw⟩ := (behind_start s).runSteps s.config s.steps
  have hdropped := hw.dropAll
  exact ⟨hsteps, hdropped.takeNotes.1, congrArg List.length hdropped.script⟩

/-! ## calls and chunks -/

def Entry.call? : Entry → Option CallNote
  | .attempt c => some c
  | _ => none

def Outcome.calls (o : Outcome) : List CallNote :=
  (o.steps.flatMap Prod.snd ++ o.final).filterMap Entry.call?

def ItemReport.chunk? : ItemReport → Option Bytes
  | .chunk c => some c
  | _ => none

def Report.chunks : Report → List Bytes
  | .item i => i.chunk?.toList
  | .items is => is.filterMap ItemReport.chunk?
  | .bytes b => [b]
  | _ => []

/-- the chunks that the consumer got, in order -/
def Outcome.chunks (o : Outcome) : List Bytes := o.steps.flatMap fun x => x.1.chunks

theorem Outcome.Behind.calls {o o' : Outcome} (h : o.Behind n o') : o.calls = o'.calls := by
  have hnotes : Forall₂ (Entry.Behind n) (o.steps.flatMap Prod.snd) (o'.steps.flatMap Prod.snd) :=
    List.rel_flatMap h.steps fun _ _ hx => hx.2
  refine forall₂_filterMap_eq (List.rel_append hnotes h.final) fun e e' he => ?_
  cases he <;> rfl

theorem Report.Behind.chunks {r r' : Report} (h : r.Behind n r') : r.chunks = r'.chunks := by
  have hchunk : ∀ i i' : ItemReport, i.Behind n i' → i.chunk? = i'.chunk? := by
    intro i i' hi
    cases hi <;> rfl
  cases h with
  | item hi => exact congrArg Option.toList (hchunk _ _ hi)
  | items his => exact forall₂_filterMap_eq his hchunk
  | _ => rfl

theorem Outcome.Behind.chunks {o o' : Outcome} (h : o.Behind n o') : o.chunks = o'.chunks := by
  have hmap : o.steps.map (fun x => x.1.chunks) = o'.steps.map fun x => x.1.chunks :=
    forall₂_map_eq h.steps fun _ _ hx => hx.1.chunks
  exact congrArg List.flatten hmap

end Refetch.Scenario

namespace Refetch

open Program Scenario

/-! ## what a stack does with a request -/

/-- what a stack does with a request, beside its outermost stage alone -/
structure Outermost (config : Config) (inner : List Config) (r : Request) (c : Context) : Prop where
  /-- it does what the outermost stage does when it hears of each call through the others -/
  alone : ∀ acts res, (Stage.execute config (Stage.stack inner) r c).Does acts res ↔
    (Stage.execute config Stage.dispatch r c).Does (acts.map (Act.heard inner.length)) res
  /-- the settings of the other stages do not matter -/
  settings : ∀ others, others.length = inner.length →
    Stage.execute config (Stage.stack others) r c = Stage.execute config (Stage.stack inner) r c
  /-- it makes one call at most, with the caller's request and signals and the mark -/
  once : ∀ acts res, (Stage.execute config (Stage.stack inner) r c).Does acts res →
    called acts = [] ∨ ∃ o, called acts = [⟨r, c.wrapped, o⟩]
  /-- it starts one driver at most, that of the outermost stage -/
  driver : ∀ acts res, (Stage.execute config (Stage.stack inner) r c).Does acts res →
    started acts = [] ∨ c.active = false ∧ ∃ source promised out,
      started acts = [(⟨Policy.ofConfig config, r, c.wrapped, source, promised⟩, out)]
  /-- a retry makes one call, and hears of it through the others -/
  retry : ∀ acts o, (Stage.stack inner r c.wrapped).Does acts o ↔
    ∃ o', acts = [.called r c.wrapped o'] ∧ o = relayedOutcome inner.length o'
  /-- under the caller's mark there is one call, and no body is guarded -/
  marked : c.active = true → ∀ acts res,
    (Stage.execute config (Stage.stack inner) r c).Does acts res →
      (∃ o, called acts = [⟨r, c, o⟩]) ∧ started acts = [] ∧
        ∀ d, res = .ok d → d.isWrapped = false

theorem called_of_heard {n : Nat} {acts : List Act} {r : Request} {c : Context} {o : Outcome}
    (h : called (acts.map (Act.heard n)) = [⟨r, c, o⟩]) : ∃ o', called acts = [⟨r, c, o'⟩] := by
  rw [called_heard, List.map_eq_singleton_iff] at h
  obtain ⟨⟨r', c', o'⟩, hacts, hx⟩ := h
  cases hx
  exact ⟨o', hacts⟩

theorem does_stack (inner : List Config) (r : Request) {c : Context} (hc : c.active = true)
    (acts : List Act) (o : Outcome) :
    (Stage.stack inner r c).Does acts o ↔
      ∃ o', acts = [.called r c o'] ∧ o = relayedOutcome inner.length o' := by
  rw [Stage.stack_active inner r hc]
  change (Program.call r c fun o => .done (relayedOutcome inner.length o)).Does acts o ↔ _
  rw [does_call]
  constructor
  · rintro ⟨o', rest, rfl, h⟩
    obtain ⟨rfl, rfl⟩ := does_done.mp h
    exact ⟨o', rfl, rfl⟩
  · rintro ⟨o', rfl, rfl⟩
    exact ⟨o', [], rfl, .done _⟩

theorem outermost (config : Config) (inner : List Config) (r : Request) (c : Context) :
    Outermost config inner r c := by
  have halone : ∀ acts res, (Stage.execute config (Stage.stack inner) r c).Does acts res ↔
      (Stage.execute config Stage.dispatch r c).Does (acts.map (Act.heard inner.length)) res := by
    intro acts res
    rw [Stage.execute_stack]
    exact does_under _ _ _ _
  -- the rest is read off what the outermost stage does with what it hears
  have hentered : ∀ acts res, (Stage.execute config (Stage.stack inner) r c).Does acts res →
      (c.active = false ∧ acts = []) ∨
        ∃ o, Entered config r c o (acts.map (Act.heard inner.length)) res := by
    intro acts res h
    obtain ⟨hc, hacts⟩ | h := entered_of_does ((halone acts res).mp h)
    · exact .inl ⟨hc, List.map_eq_nil_iff.mp hacts⟩
    · exact .inr h
  refine ⟨halone, ?_, ?_, ?_, does_stack inner r rfl, ?_⟩
  · intro others hlength
    rw [Stage.execute_stack, Stage.execute_stack, hlength]
  · intro acts res h
    obtain ⟨-, rfl⟩ | ⟨o, ho⟩ := hentered acts res h
    · exact .inl rfl
    · exact .inr (called_of_heard ho.called_wrapped)
  · intro acts res h
    obtain ⟨-, rfl⟩ | ⟨o, ho⟩ := hentered acts res h
    · exact .inl rfl
    · rw [← started_heard inner.length acts]
      exact ho.started
  · intro hc acts res h
    obtain ⟨hn, -⟩ | ⟨o, ho⟩ := hentered acts res h
    · rw [hn] at hc
      cases hc
    · have hstarted := ho.started
      rw [started_heard, hc] at hstarted
      have honce := called_of_heard ho.called_wrapped
      rw [wrapped_of_active hc] at honce
      refine ⟨honce, ?_, ho.isWrapped hc⟩
      obtain hs | ⟨hn, -⟩ := hstarted
      · exact hs
      · cases hn

/-- **A stack of stages behaves as its outermost stage.**  A scenario comes to what it comes to
without the inner stages: the same calls, the same chunks and the same reports, but for the failures
of the transport and of its bodies, which each inner stage has wrapped.  The same holds for any one
request and any transport. -/
theorem stack_as_outermost (s : Scenario) :
    s.alone.run.Behind s.inner.length s.run ∧
    s.alone.run.calls = s.run.calls ∧
    s.alone.run.chunks = s.run.chunks ∧
    (∀ r c, Outermost s.config s.inner r c) ∧
    (∀ e e', StageError.Behind s.inner.length e e' → e'.name = e.name) ∧
    ∀ (n : Nat) (cause : Cause),
      (cause.relayed .dispatch n).message = prefixed "dispatch failed: " n cause.message ∧
      (cause.relayed .stream n).message = prefixed "body stream failed: " n cause.message := by
  have hrun := behind_run s
  refine ⟨hrun, hrun.calls, hrun.chunks, outermost s.config s.inner, fun e e' h => h.name, ?_⟩
  intro n cause
  exact ⟨Cause.message_relayed (p := "dispatch failed: ") (fun _ => rfl) (by decide) n cause,
    Cause.message_relayed (p := "body stream failed: ") (fun _ => rfl) (by decide) n cause⟩

end Refetch

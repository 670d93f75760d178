import Mathlib.Logic.Function.Iterate
import Refetch.Failure
/-!
# What normal form keeps of a failure

* `Failure.source?`, `Failure.Chain`   the failure that a failure names as its source, and the
                                       texts along the sources up to the last;
* `Carries e c`                        the kinds of stage error that carry a cause;
* `Failure.Holds c f`                  `f` is the cause `c` behind any number of stage errors, each
                                       of them brought to normal form any number of times;
* `chain_iff`                          `sources` is the whole chain of every failure;
* `normal_form_keeps`                  normal form is reached at once, shows what the failure
                                       shows and goes back to it, and no wrapping hides the message
                                       of the cause that is wrapped.
-/

namespace Refetch

def Failure.source? : Failure → Option Failure
  | .cause (.foreign s) => some (.foreign s)
  | .cause (.staged e) => some (.staged e)
  | .staged (.exhausted _ c) => some (.cause c)
  | .staged (.aborted c) => some (.cause c)
  | _ => none

/-- the texts along the sources of a failure, nearest first, up to one that names none -/
inductive Failure.Chain : Failure → List String → Prop where
  | last {f : Failure} (h : f.source? = none) : Chain f []
  | next {f g : Failure} {ts : List String} (h : f.source? = some g) (hg : Chain g ts) :
      Chain f (g.text :: ts)

inductive Carries : StageError → Cause → Prop where
  | dispatch (c : Cause) : Carries (.dispatch c) c
  | stream (c : Cause) : Carries (.stream c) c
  | overflow (c : Cause) : Carries (.overflow c) c
  | log (c : Cause) : Carries (.log c) c
  | exhausted (attempts : Nat) (c : Cause) : Carries (.exhausted attempts c) c
  | aborted (c : Cause) : Carries (.aborted c) c

/-- a failure in normal form, raised again -/
def Failure.renormalized (f : Failure) : Failure := .cause f.normalize

/-- the failure is this cause, behind stage errors that may have been brought to normal form -/
inductive Failure.Holds (c : Cause) : Failure → Prop where
  | here : Holds c (.cause c)
  | wrapped {e : StageError} {d : Cause} (he : Carries e d) (h : Holds c (.cause d)) :
      Holds c (.staged e)
  | renormalized {f : Failure} (h : Holds c f) : Holds c f.renormalized

/-! ## the chain of sources -/

open Failure (Chain)

mutual

theorem Cause.chain (c : Cause) : Chain (.cause c) c.sources := by
  cases c with
  | stated m => exact .last rfl
  | foreign s =>
    have hlast : Chain (.foreign s) [] := .last rfl
    exact .next rfl hlast
  | staged e => exact .next rfl e.chain

theorem StageError.chain (e : StageError) : Chain (.staged e) e.sources := by
  cases e with
  | exhausted n c => exact .next rfl c.chain
  | aborted c => exact .next rfl c.chain
  | _ => exact .last rfl

end

theorem Failure.chain (f : Failure) : Chain f f.sources := by
  cases f with
  | foreign s => exact .last rfl
  | cause c => exact c.chain
  | staged e => exact e.chain

theorem Failure.Chain.unique {f : Failure} {ts us : List String} (h : Chain f ts)
    (h' : Chain f us) : ts = us := by
  induction h generalizing us with
  | last h =>
    cases h' with
    | last => rfl
    | next h' => exact absurd (h.symm.trans h') (by simp)
  | @next f g ts h hg ih =>
    cases h' with
    | last h' => exact absurd (h'.symm.trans h) (by simp)
    | next h' hg' =>
      obtain rfl := Option.some.inj (h.symm.trans h')
      rw [ih hg']

theorem Failure.chain_iff (f : Failure) (ts : List String) : Chain f ts ↔ ts = f.sources := by
  constructor
  · intro h
    exact h.unique f.chain
  · rintro rfl
    exact f.chain

/-! ## normal form -/

theorem named_of_ne {s : String} (h : s ≠ "") : named s = s := by
  rw [named, if_neg (by simpa using h)]

theorem named_ne_empty (s : String) : named s ≠ "" := by
  by_cases h : s = ""
  · rw [h]
    decide
  · rwa [named_of_ne h]

theorem Cause.message_eq_empty_iff (c : Cause) : c.message = "" ↔ c = .stated "" := by
  constructor
  · intro h
    cases c with
    | stated m => rw [show m = "" from h]
    | foreign s => exact absurd h (named_ne_empty s)
    | staged e => exact absurd h (named_ne_empty e.text)
  · rintro rfl
    rfl

theorem Failure.renormalized_renormalized (f : Failure) :
    f.renormalized.renormalized = f.renormalized := rfl

theorem Failure.iterate_renormalized (f : Failure) (n : Nat) :
    renormalized^[n + 1] f = f.renormalized := by
  induction n with
  | zero => rfl
  | succ n ih => rw [Function.iterate_succ_apply', ih, renormalized_renormalized]

/-- a failure that is no cause yet is named by what it shows and becomes the source -/
theorem Failure.normalize_of_not_cause {f : Failure} (h : ∀ c, f ≠ .cause c) :
    f.normalize.message = named f.text ∧ f.renormalized.source? = some f := by
  cases f with
  | foreign s => exact ⟨rfl, rfl⟩
  | cause c => exact absurd rfl (h c)
  | staged e => exact ⟨rfl, rfl⟩

/-! ## messages behind wrappings -/

theorem carries_iff (e : StageError) (c : Cause) : Carries e c ↔ e.cause? = some c := by
  constructor
  · intro h
    cases h <;> rfl
  · intro h
    cases e with
    | rejected | retryFailed | internal => cases h
    | dispatch d | stream d | overflow d | exhausted n d | aborted d | log d =>
      obtain rfl := Option.some.inj h
      constructor

def EndsWith (s t : String) : Prop := ∃ p, s = p ++ t

theorem EndsWith.refl (s : String) : EndsWith s s := ⟨"", (String.empty_append).symm⟩

theorem EndsWith.trans {s t u : String} (h : EndsWith s t) (h' : EndsWith t u) : EndsWith s u := by
  obtain ⟨p, rfl⟩ := h
  obtain ⟨q, rfl⟩ := h'
  exact ⟨p ++ q, (String.append_assoc).symm⟩

theorem endsWith_named (s : String) : EndsWith (named s) s := by
  by_cases h : s = ""
  · rw [h]
    exact ⟨named "", (String.append_empty).symm⟩
  · rw [named_of_ne h]
    exact .refl s

theorem Carries.endsWith {e : StageError} {c : Cause} (h : Carries e c) :
    EndsWith e.text c.message := by
  cases h <;> exact ⟨_, rfl⟩

theorem Failure.endsWith_renormalized (f : Failure) : EndsWith f.renormalized.text f.text := by
  cases f with
  | foreign s => exact endsWith_named s
  | cause c => exact .refl c.message
  | staged e => exact endsWith_named e.text

theorem Failure.Holds.endsWith {c : Cause} {f : Failure} (h : Failure.Holds c f) :
    EndsWith f.text c.message := by
  induction h with
  | here => exact .refl c.message
  | wrapped he h ih => exact he.endsWith.trans ih
  | @renormalized f h ih => exact f.endsWith_renormalized.trans ih

/-- Bringing a failure to normal form again changes nothing.  A cause is in normal form as it is;
any other failure becomes one that shows the same text, or the message for none, and goes back to
that failure and to all that it goes back to.  A stage error shows the message of the cause that it
carries at its end, and so does whatever wraps such an error. -/
theorem normal_form_keeps :
    (∀ (f : Failure) (n : Nat), Failure.renormalized^[n + 1] f = f.renormalized) ∧
    (∀ (f : Failure) (ts : List String), Chain f ts ↔ ts = f.sources) ∧
    (∀ c : Cause, (Failure.cause c).normalize = c) ∧
    (∀ f : Failure, (∀ c, f ≠ .cause c) →
      f.normalize.message = (if f.text = "" then "unknown stream failure" else f.text) ∧
      ∀ ts, Chain f ts → Chain f.renormalized (f.text :: ts)) ∧
    (∀ f : Failure, f.normalize.message = "" ↔ f = .cause (.stated "")) ∧
    (∀ (e : StageError) (c : Cause), Carries e c ↔ e.cause? = some c) ∧
    (∀ (e : StageError) (c : Cause), Carries e c → EndsWith e.text c.message) ∧
    ∀ (c : Cause) (f : Failure), f.Holds c →
      EndsWith f.text c.message ∧ EndsWith f.normalize.message c.message := by
  refine ⟨Failure.iterate_renormalized, Failure.chain_iff, Failure.normalize_cause, ?foreign,
    ?empty, carries_iff, fun e c h => h.endsWith, ?held⟩
  case foreign =>
    intro f hf
    obtain ⟨hmessage, hsource⟩ := Failure.normalize_of_not_cause hf
    refine ⟨?_, fun ts hts => .next hsource hts⟩
    rw [hmessage]
    split
    · next h => rw [h]; rfl
    · next h => exact named_of_ne h
  case empty =>
    intro f
    rw [Cause.message_eq_empty_iff]
    cases f with
    | foreign s => exact ⟨nofun, nofun⟩
    | cause c => exact ⟨fun h => congrArg Failure.cause h, fun h => Failure.cause.inj h⟩
    | staged e => exact ⟨nofun, nofun⟩
  case held =>
    intro c f h
    exact ⟨h.endsWith, f.endsWith_renormalized.trans h.endsWith⟩

end Refetch

import Mathlib.Data.List.GetD
import Mathlib.Data.List.Induction
import Refetch.Context
/-!
# What the contexts of a family share

* `Lineage`            the root that a context derives from, and the links from there;
* `lineages`           the lineages of all contexts, after a list of moves;
* `Lineage.context`    the context of a lineage: the root gives the signals and the identity, the
                       links give the mark;
* `all_after`          after any moves, the contexts of a family are those of its lineages;
* `mem_on_after`       the signals that are on are those of the start and those switched on since;
* `isAborted_first`    so the first context is aborted exactly when one of its signals is on;
* `family_shares`      what this says of every context of the family, at every moment.
-/

namespace Refetch

namespace Contexts

inductive Link where
  | wrapped
  | cloned
  deriving DecidableEq, Repr

/-- the root that a context derives from, and the links from there, the latest last -/
structure Lineage where
  /-- `0` for the first context of the family, `n` for the `n`-th fresh one -/
  root : Nat
  links : List Link
  deriving DecidableEq, Repr

namespace Lineage

def first : Lineage := ⟨0, []⟩

def extend (l : Lineage) (k : Link) : Lineage := { l with links := l.links ++ [k] }

/-- the context of a lineage; `abort` are the signals of the first context -/
def context (abort : Abort) (l : Lineage) : Context where
  abort := if l.root = 0 then abort else {}
  active := l.links.contains .wrapped
  requestId := .drawn l.root

end Lineage

/-- the lineages after one more move; a context without links is a root -/
def grow (ls : List Lineage) : ContextMove → List Lineage
  | .wrapped i => ls ++ [(ls.getD (i % ls.length) .first).extend .wrapped]
  | .clone i => ls ++ [(ls.getD (i % ls.length) .first).extend .cloned]
  | .fresh => ls ++ [⟨ls.countP (·.links.isEmpty), []⟩]
  | .cancelRequest => ls
  | .cancelContext => ls

/-- the lineages of all contexts, each at its context's place -/
def lineages (ms : List ContextMove) : List Lineage := ms.foldl grow [.first]

def after (f : Contexts) (ms : List ContextMove) : Contexts := ms.foldl step f

/-- a signal of the first context was cancelled, at the start or by one of the moves -/
def Cancelled (request context : StartSignal) (ms : List ContextMove) : Prop :=
  (request = .cancelled ∨ request = .live ∧ .cancelRequest ∈ ms) ∨
    context = .cancelled ∨ context = .live ∧ .cancelContext ∈ ms

theorem after_append (f : Contexts) (a b : List ContextMove) :
    f.after (a ++ b) = (f.after a).after b := List.foldl_append

theorem after_snoc (f : Contexts) (ms : List ContextMove) (m : ContextMove) :
    f.after (ms ++ [m]) = (f.after ms).step m := after_append f ms [m]

theorem lineages_snoc (ms : List ContextMove) (m : ContextMove) :
    lineages (ms ++ [m]) = grow (lineages ms) m := List.foldl_append

theorem Cancelled.append {r c : StartSignal} {ms : List ContextMove} (h : Cancelled r c ms)
    (later : List ContextMove) : Cancelled r c (ms ++ later) := by
  rcases h with (hr | ⟨hr, hm⟩) | hc | ⟨hc, hm⟩
  · exact .inl (.inl hr)
  · exact .inl (.inr ⟨hr, List.mem_append_left _ hm⟩)
  · exact .inr (.inl hc)
  · exact .inr (.inr ⟨hc, List.mem_append_left _ hm⟩)

theorem getElem?_scan (f : Contexts) {ms : List ContextMove} {k : Nat} (hk : k < ms.length) :
    (f.scan ms)[k]? = some (f.after (ms.take (k + 1))) := by
  induction ms generalizing f k with
  | nil => exact absurd hk (Nat.not_lt_zero k)
  | cons m ms ih =>
    cases k with
    | zero => rfl
    | succ k => exact ih (f.step m) (Nat.lt_of_succ_lt_succ hk)

/-! ## the contexts -/

theorem cancel_eq (f : Contexts) (name : Option SignalId) :
    f.cancel name = { f with on := name.toList ++ f.on } := by
  cases name <;> rfl

theorem first_step (f : Contexts) (m : ContextMove) : (f.step m).first = f.first := by
  cases m <;> simp only [step, cancel_eq, push]

theorem first_after (f : Contexts) (ms : List ContextMove) : (f.after ms).first = f.first := by
  induction ms using List.reverseRecOn with
  | nil => rfl
  | append_singleton ms m ih => rw [after_snoc, first_step, ih]

theorem all_push (f : Contexts) (x : Context) : (f.push x).all = f.all ++ [x] := rfl

theorem prefix_all_step (f : Contexts) (m : ContextMove) : f.all <+: (f.step m).all := by
  cases m with
  | cancelRequest => simp only [step, cancel_eq, all, List.prefix_refl]
  | cancelContext => simp only [step, cancel_eq, all, List.prefix_refl]
  | wrapped i => exact List.prefix_append _ _
  | clone i => exact List.prefix_append _ _
  | fresh => exact List.prefix_append _ _

theorem prefix_all_after (f : Contexts) (ms : List ContextMove) : f.all <+: (f.after ms).all := by
  induction ms using List.reverseRecOn with
  | nil => exact List.prefix_refl _
  | append_singleton ms m ih =>
    rw [after_snoc]
    exact ih.trans (prefix_all_step _ m)

theorem prefix_grow (ls : List Lineage) (m : ContextMove) : ls <+: grow ls m := by
  cases m with
  | cancelRequest => exact List.prefix_refl _
  | cancelContext => exact List.prefix_refl _
  | wrapped i => exact List.prefix_append _ _
  | clone i => exact List.prefix_append _ _
  | fresh => exact List.prefix_append _ _

theorem prefix_lineages (ms later : List ContextMove) :
    lineages ms <+: lineages (ms ++ later) := by
  induction later using List.reverseRecOn with
  | nil => simp only [List.append_nil, List.prefix_refl]
  | append_singleton later m ih =>
    rw [← List.append_assoc, lineages_snoc]
    exact ih.trans (prefix_grow _ m)

namespace Lineage

theorem context_wrapped (a : Abort) (l : Lineage) :
    (l.extend .wrapped).context a = (l.context a).wrapped := by
  have hmark : (l.links ++ [Link.wrapped]).contains .wrapped = true := by simp
  rw [context, extend, hmark]
  rfl

theorem context_cloned (a : Abort) (l : Lineage) :
    (l.extend .cloned).context a = l.context a := by
  have hmark : (l.links ++ [Link.cloned]).contains .wrapped = l.links.contains .wrapped := by simp
  rw [context, extend, hmark]
  rfl

end Lineage

/-- the contexts of a family are those of the lineages, and its next identity is a new root's -/
structure Traced (abort : Abort) (f : Contexts) (ls : List Lineage) : Prop where
  all : f.all = ls.map (·.context abort)
  first : f.first = Lineage.first.context abort
  drawn : f.drawn = ls.countP (·.links.isEmpty)
  pos : 0 < f.drawn
  below : ∀ l ∈ ls, l.root < f.drawn

namespace Traced

variable {a : Abort} {f : Contexts} {ls : List Lineage}

theorem pick (h : Traced a f ls) (i : Nat) :
    f.pick i = (ls.getD (i % ls.length) .first).context a := by
  rw [Contexts.pick, h.all, h.first, List.length_map, List.getD_map]

theorem getD_root (h : Traced a f ls) (i : Nat) : (ls.getD i .first).root < f.drawn := by
  by_cases hi : i < ls.length
  · rw [List.getD_eq_getElem _ _ hi]
    exact h.below _ (List.getElem_mem hi)
  · rw [List.getD_eq_default _ _ (Nat.le_of_not_lt hi)]
    exact h.pos

theorem extend (h : Traced a f ls) (i : Nat) (k : Link) {x : Context}
    (hx : ((ls.getD (i % ls.length) .first).extend k).context a = x) :
    Traced a (f.push x) (ls ++ [(ls.getD (i % ls.length) .first).extend k]) where
  all := by rw [all_push, h.all, List.map_append, List.map_singleton, hx]
  first := h.first
  drawn := by
    rw [List.countP_append]
    show f.drawn = _
    simp [h.drawn, Lineage.extend]
  pos := h.pos
  below := by
    intro l hl
    rcases List.mem_append.mp hl with hl | hl
    · exact h.below l hl
    · rw [List.mem_singleton.mp hl]
      exact h.getD_root _

theorem step (h : Traced a f ls) (m : ContextMove) : Traced a (f.step m) (grow ls m) := by
  cases m with
  | cancelRequest =>
    rw [Contexts.step, cancel_eq]
    exact ⟨h.all, h.first, h.drawn, h.pos, h.below⟩
  | cancelContext =>
    rw [Contexts.step, cancel_eq]
    exact ⟨h.all, h.first, h.drawn, h.pos, h.below⟩
  | wrapped i =>
    refine h.extend i .wrapped ?_
    rw [h.pick, Lineage.context_wrapped]
  | clone i =>
    refine h.extend i .cloned ?_
    rw [h.pick, Lineage.context_cloned]
  | fresh =>
    have hroot : ls.countP (·.links.isEmpty) ≠ 0 := by
      have := h.pos
      have := h.drawn
      omega
    have hnew : Lineage.context a ⟨ls.countP (·.links.isEmpty), []⟩ = .new {} f.drawn := by
      simp only [Lineage.context, hroot, if_false, h.drawn]
      rfl
    refine ⟨?all, h.first, ?drawn, Nat.succ_pos _, ?below⟩
    case all =>
      show f.all ++ [_] = _
      rw [grow, h.all, List.map_append, List.map_singleton, hnew]
    case drawn =>
      show f.drawn + 1 = _
      rw [grow, List.countP_append, h.drawn]
      rfl
    case below =>
      intro l hl
      rcases List.mem_append.mp hl with hl | hl
      · exact Nat.lt_succ_of_lt (h.below l hl)
      · rw [List.mem_singleton.mp hl, ← h.drawn]
        exact Nat.lt_succ_self f.drawn

theorem after (h : Traced a f [.first]) (ms : List ContextMove) :
    Traced a (f.after ms) (lineages ms) := by
  induction ms using List.reverseRecOn with
  | nil => exact h
  | append_singleton ms m ih =>
    rw [after_snoc, lineages_snoc]
    exact ih.step m

end Traced

theorem traced_start (r c : StartSignal) : Traced (start r c).first.abort (start r c) [.first] :=
  ⟨rfl, rfl, rfl, Nat.one_pos, fun _ hl => List.mem_singleton.mp hl ▸ Nat.one_pos⟩

theorem all_after (r c : StartSignal) (ms : List ContextMove) :
    ((start r c).after ms).all = (lineages ms).map (·.context (start r c).first.abort) :=
  ((traced_start r c).after ms).all

example : lineages [.wrapped 0, .fresh, .clone 1, .cancelRequest, .wrapped 2] =
    [⟨0, []⟩, ⟨0, [.wrapped]⟩, ⟨1, []⟩, ⟨0, [.wrapped, .cloned]⟩, ⟨1, [.wrapped]⟩] := by
  decide

/-! ## the signals -/

theorem mem_on_step (f : Contexts) (m : ContextMove) (n : SignalId) :
    n ∈ (f.step m).on ↔ n ∈ f.on ∨
      (m = .cancelRequest ∧ f.first.abort.request = some n) ∨
        (m = .cancelContext ∧ f.first.abort.context = some n) := by
  cases m <;> simp [step, cancel_eq, push, or_comm]

theorem mem_on_after (f : Contexts) (ms : List ContextMove) (n : SignalId) :
    n ∈ (f.after ms).on ↔ n ∈ f.on ∨
      (.cancelRequest ∈ ms ∧ f.first.abort.request = some n) ∨
        (.cancelContext ∈ ms ∧ f.first.abort.context = some n) := by
  induction ms using List.reverseRecOn with
  | nil => simp [after]
  | append_singleton ms m ih =>
    rw [after_snoc, mem_on_step, ih, first_after]
    simp only [List.mem_append, List.mem_singleton, eq_comm (a := m)]
    tauto

theorem isOn_iff (a : Abort) (on : Signals) :
    a.isOn on = true ↔
      (∃ n, a.request = some n ∧ n ∈ on) ∨ ∃ n, a.context = some n ∧ n ∈ on := by
  obtain ⟨request, context⟩ := a
  cases request <;> cases context <;> simp [Abort.isOn]

theorem isAborted_first (r c : StartSignal) (ms : List ContextMove) :
    (start r c).first.isAborted ((start r c).after ms).on = true ↔ Cancelled r c ms := by
  rw [Context.isAborted, isOn_iff]
  simp only [mem_on_after]
  cases r <;> cases c <;>
    simp [start, Context.new, StartSignal.held, StartSignal.on, Cancelled, requestSignal,
      contextSignal]

/-! ## the contexts beside their lineages -/

namespace Lineage

theorem isAborted_root {l : Lineage} (hl : l.root = 0) (a : Abort) (on : Signals) :
    (l.context a).isAborted on = a.isOn on := by
  rw [Context.isAborted, context, if_pos hl]

theorem isAborted_fresh {l : Lineage} (hl : l.root ≠ 0) (a : Abort) (on : Signals) :
    (l.context a).isAborted on = false := by
  rw [Context.isAborted, context, if_neg hl]
  rfl

theorem active_iff (a : Abort) (l : Lineage) :
    (l.context a).active = true ↔ .wrapped ∈ l.links := List.contains_iff_mem

theorem requestId_eq_iff (a : Abort) (l l' : Lineage) :
    (l.context a).requestId = (l'.context a).requestId ↔ l.root = l'.root := by
  rw [context, context, RequestId.drawn.injEq]

end Lineage

theorem mem_zip_after {r c : StartSignal} {ms : List ContextMove} {x : Context} {l : Lineage} :
    (x, l) ∈ ((start r c).after ms).all.zip (lineages ms) ↔
      l ∈ lineages ms ∧ x = l.context (start r c).first.abort := by
  have hzip : ((lineages ms).map (·.context (start r c).first.abort)).zip (lineages ms) =
      (lineages ms).map fun l => (l.context (start r c).first.abort, l) := by
    rw [← List.zip_map', List.map_id']
  rw [all_after, hzip, List.mem_map]
  constructor
  · rintro ⟨l, hl, ⟨⟩⟩
    exact ⟨hl, rfl⟩
  · rintro ⟨hl, rfl⟩
    exact ⟨l, hl, rfl⟩

theorem isAborted_append (r c : StartSignal) (ms later : List ContextMove) {x : Context}
    (hx : x ∈ ((start r c).after ms).all)
    (habort : x.isAborted ((start r c).after ms).on = true) :
    x.isAborted ((start r c).after (ms ++ later)).on = true := by
  rw [all_after] at hx
  obtain ⟨l, -, rfl⟩ := List.mem_map.mp hx
  by_cases hl : l.root = 0
  · rw [Lineage.isAborted_root hl] at habort ⊢
    exact (isAborted_first r c _).mpr (((isAborted_first r c ms).mp habort).append later)
  · rw [Lineage.isAborted_fresh hl] at habort
    cases habort

theorem after_fresh (r c : StartSignal) (ms : List ContextMove) :
    ∃ x, ((start r c).after (ms ++ [.fresh])).all = ((start r c).after ms).all ++ [x] ∧
      x.active = false ∧ (∀ y ∈ ((start r c).after ms).all, y.requestId ≠ x.requestId) ∧
      ∀ on, x.isAborted on = false := by
  have h := (traced_start r c).after ms
  refine ⟨.new {} ((start r c).after ms).drawn, ?_, rfl, ?_, fun _ => rfl⟩
  · rw [after_snoc]
    rfl
  · intro y hy hid
    rw [h.all] at hy
    obtain ⟨l, hl, rfl⟩ := List.mem_map.mp hy
    have hlt : l.root < ((start r c).after ms).drawn := h.below l hl
    have heq : l.root = ((start r c).after ms).drawn := RequestId.drawn.inj hid
    omega

/-- However cancellations, wraps, clones and fresh contexts follow each other on a growing family:
at every moment each context that derives from the first one has its identity and its verdict,
aborted exactly when a signal of the first one was cancelled before; it is marked exactly when a
wrap is among its links.  Contexts that exist stay as they are, a verdict that is aborted stays so,
and what derives from a fresh context is never aborted and has another identity. -/
theorem family_shares (r c : StartSignal) (ms : List ContextMove) :
    ((start r c).after ms).all.length = (lineages ms).length ∧
    (∀ x l, (x, l) ∈ ((start r c).after ms).all.zip (lineages ms) →
      (x.requestId = (start r c).first.requestId ↔ l.root = 0) ∧
      (l.root = 0 → (x.isAborted ((start r c).after ms).on = true ↔ Cancelled r c ms)) ∧
      (l.root ≠ 0 → x.isAborted ((start r c).after ms).on = false) ∧
      (x.active = true ↔ .wrapped ∈ l.links)) ∧
    (∀ x l y l', (x, l) ∈ ((start r c).after ms).all.zip (lineages ms) →
      (y, l') ∈ ((start r c).after ms).all.zip (lineages ms) →
      (x.requestId = y.requestId ↔ l.root = l'.root)) ∧
    (∀ later,
      ((start r c).after ms).all <+: ((start r c).after (ms ++ later)).all ∧
      lineages ms <+: lineages (ms ++ later) ∧
      ∀ x ∈ ((start r c).after ms).all, x.isAborted ((start r c).after ms).on = true →
        x.isAborted ((start r c).after (ms ++ later)).on = true) ∧
    (∃ x, ((start r c).after (ms ++ [.fresh])).all = ((start r c).after ms).all ++ [x] ∧
      x.active = false ∧ (∀ y ∈ ((start r c).after ms).all, y.requestId ≠ x.requestId) ∧
      ∀ on, x.isAborted on = false) ∧
    ∀ k < ms.length, ((start r c).scan ms)[k]? = some ((start r c).after (ms.take (k + 1))) := by
  refine ⟨?places, ?each, ?two, ?kept, after_fresh r c ms, fun k hk => getElem?_scan _ hk⟩
  case places => rw [all_after, List.length_map]
  case each =>
    intro x l hx
    obtain ⟨-, rfl⟩ := mem_zip_after.mp hx
    refine ⟨Lineage.requestId_eq_iff _ l .first, fun hl => ?_, fun hl => ?_,
      Lineage.active_iff _ l⟩
    · rw [Lineage.isAborted_root hl]
      exact isAborted_first r c ms
    · exact Lineage.isAborted_fresh hl _ _
  case two =>
    intro x l y l' hx hy
    obtain ⟨-, rfl⟩ := mem_zip_after.mp hx
    obtain ⟨-, rfl⟩ := mem_zip_after.mp hy
    exact Lineage.requestId_eq_iff _ l l'
  case kept =>
    intro later
    refine ⟨?_, prefix_lineages ms later, fun x hx => isAborted_append r c ms later hx⟩
    rw [after_append]
    exact prefix_all_after _ later

end Contexts

end Refetch

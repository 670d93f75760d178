import Refetch.Proofs.Config.Members
/-!
# Partial and extended configuration documents

* `Config.Listing`          the text is a list of the values of these assignments, in their order;
* `Listing.ofChars`         such a list makes its assignments, if they are to the first settings;
* `assigned_by_document`    what a document says is what the configuration is: the assignments it
                            makes replace defaults, nothing else in it matters, and a setting that
                            comes twice spoils it.
-/

namespace Refetch

open Json

namespace Config

/-! ## lists of values -/

/-- values with commas between them and blanks around each -/
inductive Values : List Given → List Char → Prop where
  | last (a : Given) (g h : Gap) : Values [a] (g.chars ++ (a.text ++ h.chars))
  | more {as : List Given} {cs : List Char} (a : Given) (g h : Gap)
      (hcs : Values as cs) : Values (a :: as) (g.chars ++ (a.text ++ (h.chars ++ ',' :: cs)))

/-- the text is a list of the values of these assignments -/
inductive Listing : List Given → List Char → Prop where
  | empty (g h i : Gap) : Listing [] (g.chars ++ '[' :: (h.chars ++ ']' :: i.chars))
  | values {as : List Given} {cs : List Char} (g i : Gap) (h : Values as cs) :
      Listing as (g.chars ++ '[' :: (cs ++ ']' :: i.chars))

theorem readElements_end (c : Config) (first : Bool) (ks : List Key) (g : Gap) (rest : List Char) :
    c.readElements first ks (g.chars ++ ']' :: rest) = .ok (c, rest) := by
  cases ks <;> simp only [readElements, skipBlank_gap_cons (c := ']') g rest rfl]

section
variable (c : Config) (a : Given) (ks : List Key) (g h : Gap) (rest : List Char)

theorem readElements_open :
    c.readElements true (a.key :: ks) (g.chars ++ (a.text ++ rest)) =
      match c.readValue a.key (a.text ++ rest) with
      | .error p => .error p
      | .ok (c, r) => readElements c false ks r := by
  obtain ⟨d, ds, hd, hblank, hne⟩ := a.head_text
  rw [hd, List.cons_append, readElements, skipBlank_gap_cons g _ hblank]
  split
  · next h => cases h
  · next h => exact absurd (List.cons.inj h).1 hne
  · next h =>
    obtain ⟨rfl, rfl⟩ := List.cons.inj h
    exact if_pos rfl

/-- behind a comma it goes on as at the start -/
theorem readElements_comma :
    c.readElements false (a.key :: ks) (h.chars ++ ',' :: (g.chars ++ (a.text ++ rest))) =
      c.readElements true (a.key :: ks) (g.chars ++ (a.text ++ rest)) := by
  rw [readElements_open]
  obtain ⟨d, ds, hd, hblank, hne⟩ := a.head_text
  rw [hd, List.cons_append, readElements, skipBlank_gap_cons (c := ',') h _ rfl]
  split
  · next h => cases h
  · next h => exact absurd (List.cons.inj h).1 (by decide)
  · next h =>
    obtain ⟨rfl, rfl⟩ := List.cons.inj h
    rw [if_neg Bool.false_ne_true, if_pos rfl, skipBlank_gap_cons g _ hblank]
    split
    · next h => cases h
    · next h => exact absurd (List.cons.inj h).1 hne
    · rfl

theorem readElements_value (hrest : EndsNumber rest) :
    c.readElements true (a.key :: ks) (g.chars ++ (a.text ++ rest)) =
      (c.assign a).readElements false ks rest := by
  rw [readElements_open, c.readValue_text a hrest]

end

theorem Values.head {as : List Given} {cs : List Char} (h : Values as cs) :
    ∃ (a : Given) (g : Gap) (rest : List Char) (bs : List Given),
      as = a :: bs ∧ cs = g.chars ++ (a.text ++ rest) := by
  cases h with
  | last a g h => exact ⟨a, g, _, _, rfl, rfl⟩
  | more a g h hcs => exact ⟨a, g, _, _, rfl, rfl⟩

/-- the values up to the closing bracket, for settings that stand in the order of the values -/
theorem Values.read {as : List Given} {cs : List Char} (h : Values as cs) (c : Config)
    (ks : List Key) (rest : List Char) :
    c.readElements true (as.map Given.key ++ ks) (cs ++ ']' :: rest) =
      .ok (as.foldl assign c, rest) := by
  induction h generalizing c with
  | last a g h =>
    rw [List.append_assoc, List.append_assoc]
    show c.readElements true (a.key :: ks) _ = _
    rw [readElements_value c a ks g _ (endsNumber_gap_cons h rest (by simp)), readElements_end]
    rfl
  | @more as cs a g h hcs ih =>
    -- the next value is looked at before its comma is dropped
    obtain ⟨b, i, tail, bs, rfl, rfl⟩ := hcs.head
    have hend : EndsNumber (h.chars ++ ',' :: (i.chars ++ (b.text ++ tail) ++ ']' :: rest)) :=
      endsNumber_gap_cons h _ (by simp)
    have hnext := ih (c.assign a)
    simp only [List.map_cons, List.cons_append, List.append_assoc] at hnext hend ⊢
    rw [readElements_value c a _ g _ hend, readElements_comma, hnext]
    rfl

/-- a list gives its values to the first settings -/
theorem Listing.ofChars {as : List Given} {cs : List Char} (h : Listing as cs)
    (hkeys : as.map Given.key <+: Key.all) : ofChars cs = .ok (assigned as) := by
  obtain ⟨ks, hks⟩ := hkeys
  cases h with
  | empty g h i =>
    simp only [Config.ofChars, readDocument, skipBlank_gap_cons (c := '[') g _ rfl,
      readElements_end, skipBlank_all, List.isEmpty_nil, if_true]
    rfl
  | values g i h =>
    have hread := h.read {} ks i.chars
    rw [hks] at hread
    simp only [Config.ofChars, readDocument, skipBlank_gap_cons (c := '[') g _ rfl, hread,
      skipBlank_all, List.isEmpty_nil, if_true]
    rfl

/-! ## what a document says -/

/-- A document that assigns values to some settings, each at most once, is read as the defaults
with these settings replaced: in any order, with any members of other names between them and any
blanks.  Documents with the same assignments are read alike.  A document that assigns a setting
twice is refused.  A list of values for the first settings is read as an object that makes the same
assignments. -/
theorem assigned_by_document :
    (∀ (as : List Given) (s : String), Document as s.toList →
      (as.map Given.key).Nodup →
        ofDocument s = .ok (assigned as) ∧ (∀ a ∈ as, (assigned as).get a.key = a) ∧
        ∀ k ∉ as.map Given.key, (assigned as).get k = ({} : Config).get k) ∧
    (∀ (as bs : List Given) (s t : String), Document as s.toList → Document bs t.toList →
      as.Perm bs → ofDocument s = ofDocument t) ∧
    (∀ (as : List Given) (s : String), Document as s.toList →
      ¬ (as.map Given.key).Nodup → ofDocument s = .error .mistyped) ∧
    ∀ (n : Nat) (as : List Given) (s : String), as.map Given.key = Key.all.take n →
      Listing as s.toList → ofDocument s = .ok (assigned as) ∧
        ∀ (bs : List Given) (t : String), bs.Perm as → Document bs t.toList →
          ofDocument t = ofDocument s := by
  refine ⟨?replaced, ?alike, ?refused, ?listed⟩
  case replaced =>
    intro as s h hnodup
    exact ⟨h.ofChars_nodup hnodup, get_foldl_of_mem {} hnodup,
      fun k hk => get_foldl_of_not_mem {} hk⟩
  case alike =>
    intro as bs s t h h' hperm
    exact h.ofChars_perm h' hperm
  case refused =>
    intro as s h htwice
    exact h.ofChars_twice htwice
  case listed =>
    intro n as s hkeys h
    have hlist := h.ofChars (by rw [hkeys]; exact List.take_prefix n Key.all)
    refine ⟨hlist, ?_⟩
    intro bs t hperm h'
    have hnodup : (as.map Given.key).Nodup := by
      rw [hkeys]
      exact (show Key.all.Nodup by decide).sublist (List.take_sublist n Key.all)
    have hnodup' := (hperm.map Given.key).nodup_iff.mpr hnodup
    show Config.ofChars t.toList = Config.ofChars s.toList
    rw [hlist, h'.ofChars_nodup hnodup', assigned_perm hperm hnodup']

/-- a setting named through an escape, behind a member of another name with a list and an object -/
theorem assigned_by_document_extended :
    Document [.budget 3]
      " \x7b\"x\":[-0.5,\x7b\"y\":null\x7d], \"retry\\u005fbudget\" : 3\x7d".toList ∧
    ofDocument " \x7b\"x\":[-0.5,\x7b\"y\":null\x7d], \"retry\\u005fbudget\" : 3\x7d" =
      .ok { budget := 3 } := by
  let blank : Gap := ⟨[' '], by simp⟩
  have htenths : Fraction ['.', '5'] := .present ⟨by simp, List.all_eq_true.mp rfl⟩
  have hhalf : Value ['-', '0', '.', '5'] := .negative .zero htenths .absent
  have hy : Body ['y'] := .plain rfl .done
  have hinner : Value ['\x7b', '\x22', 'y', '\x22', ':', 'n', 'u', 'l', 'l', '\x7d'] :=
    .object (.last .none .none .none .none hy .null)
  have hother : ∀ k : Key, k.name.toList ≠ ['x'] := by intro k; cases k <;> simp [Key.name]
  have hunit : Quad ['0', '0', '5', 'f'] 0x5f := ⟨rfl, List.all_eq_true.mp rfl, rfl⟩
  have hretry : ∀ c ∈ "retry".toList, isPlain c = true := List.all_eq_true.mp rfl
  have hbudget : ∀ c ∈ "budget".toList, isPlain c = true := List.all_eq_true.mp rfl
  have hname : Spells "retry\\u005fbudget".toList Key.budget.name.toList :=
    .plains hretry (.unit hunit (.inl (by decide)) (.plains hbudget .done))
  have hdoc : Document [.budget 3]
      " \x7b\"x\":[-0.5,\x7b\"y\":null\x7d], \"retry\\u005fbudget\" : 3\x7d".toList :=
    .entries blank .none (.more
      (.other .none .none .none .none (.plain rfl .done) hother
        (.list (.more .none .none hhalf (.last .none .none hinner))))
      (.last (.setting (.budget 3) blank blank blank .none hname)))
  exact ⟨hdoc, (assigned_by_document.1 _ _ hdoc (by decide)).1⟩

end Config

end Refetch

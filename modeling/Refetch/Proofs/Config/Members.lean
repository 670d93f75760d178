import Mathlib.Data.List.Perm.Basic
import Refetch.Config.Document
import Refetch.Proofs.Json.Skip
/-!
# Configuration objects, member by member

* `Given`              a setting with the value that a document gives it;
* `Config.assigned`    the defaults with some settings replaced;
* `Config.Document`    the text is an object that makes these assignments in this order, with
                       members of other names and blanks wherever JSON allows them;
* `Entries.read`       the members up to the closing brace, whatever was read before them;
* `Document.ofChars`   what becomes of such a text: the assignments are taken over, unless a
                       setting comes twice.

A name is compared by what it spells, so a setting may be named through escapes.
-/

namespace Refetch

open Json

/-- a setting with the value that a document gives it -/
inductive Given where
  | budget (n : UInt32)
  | delayMs (n : UInt64)
  | allowUnsafe (b : Bool)
  | ceiling (n : Option UInt64)
  deriving DecidableEq, Repr

namespace Given

open Config (Key)

def key : Given → Key
  | .budget _ => .budget
  | .delayMs _ => .delayMs
  | .allowUnsafe _ => .allowUnsafe
  | .ceiling _ => .ceiling

def text : Given → List Char
  | .budget n => Text.natDigits n.toNat
  | .delayMs n => Text.natDigits n.toNat
  | .allowUnsafe true => ['t', 'r', 'u', 'e']
  | .allowUnsafe false => ['f', 'a', 'l', 's', 'e']
  | .ceiling (some n) => Text.natDigits n.toNat
  | .ceiling none => ['n', 'u', 'l', 'l']

theorem head_text (a : Given) :
    ∃ c cs, a.text = c :: cs ∧ Json.isBlank c = false ∧ c ≠ ']' := by
  have hnat : ∀ n : Nat, ∃ c cs, Text.natDigits n = c :: cs ∧ Json.isBlank c = false ∧ c ≠ ']' := by
    intro n
    obtain ⟨c, cs, hcs, hc⟩ := natDigits_cons n
    exact ⟨c, cs, hcs, isBlank_of_isDigit hc, ne_of_isDigit hc rfl⟩
  match a with
  | .budget n => exact hnat n.toNat
  | .delayMs n => exact hnat n.toNat
  | .allowUnsafe true => exact ⟨_, _, rfl, rfl, by decide⟩
  | .allowUnsafe false => exact ⟨_, _, rfl, rfl, by decide⟩
  | .ceiling (some n) => exact hnat n.toNat
  | .ceiling none => exact ⟨_, _, rfl, rfl, by decide⟩

end Given

namespace Config

def assign (c : Config) : Given → Config
  | .budget n => { c with budget := n }
  | .delayMs n => { c with delayMs := n }
  | .allowUnsafe b => { c with allowUnsafe := b }
  | .ceiling n => { c with ceiling := n }

/-- the defaults with these settings replaced, one after the other -/
def assigned (as : List Given) : Config := as.foldl assign {}

def get (c : Config) : Key → Given
  | .budget => .budget c.budget
  | .delayMs => .delayMs c.delayMs
  | .allowUnsafe => .allowUnsafe c.allowUnsafe
  | .ceiling => .ceiling c.ceiling

theorem eq_of_get {c d : Config} (h : ∀ k, c.get k = d.get k) : c = d := by
  have h1 := Given.budget.inj (h .budget)
  have h2 := Given.delayMs.inj (h .delayMs)
  have h3 := Given.allowUnsafe.inj (h .allowUnsafe)
  have h4 := Given.ceiling.inj (h .ceiling)
  obtain ⟨b, d, u, m⟩ := c
  simp only at h1 h2 h3 h4
  rw [h1, h2, h3, h4]

theorem get_assign_key (c : Config) (a : Given) : (c.assign a).get a.key = a := by
  cases a <;> rfl

theorem get_assign_of_ne (c : Config) {a : Given} {k : Key} (h : k ≠ a.key) :
    (c.assign a).get k = c.get k := by
  cases a <;> cases k <;> first | rfl | exact absurd rfl h

theorem get_foldl_of_not_mem (c : Config) {as : List Given} {k : Key}
    (h : k ∉ as.map Given.key) : (as.foldl assign c).get k = c.get k := by
  induction as generalizing c with
  | nil => rfl
  | cons a as ih =>
    rw [List.map_cons, List.mem_cons, not_or] at h
    rw [List.foldl_cons, ih _ h.2, get_assign_of_ne c h.1]

theorem get_foldl_of_mem (c : Config) {as : List Given}
    (hnodup : (as.map Given.key).Nodup) :
    ∀ a ∈ as, (as.foldl assign c).get a.key = a := by
  induction as generalizing c with
  | nil => exact fun a ha => absurd ha List.not_mem_nil
  | cons b as ih =>
    rw [List.map_cons, List.nodup_cons] at hnodup
    intro a ha
    rw [List.foldl_cons]
    rcases List.mem_cons.mp ha with rfl | ha
    · rw [get_foldl_of_not_mem _ hnodup.1, get_assign_key]
    · exact ih _ hnodup.2 a ha

/-- the order of assignments to different settings does not matter -/
theorem assigned_perm {as bs : List Given} (h : as.Perm bs)
    (hnodup : (as.map Given.key).Nodup) : assigned as = assigned bs := by
  have hkeys := h.map Given.key
  have hnodup' := hkeys.nodup_iff.mp hnodup
  apply eq_of_get
  intro k
  by_cases hk : k ∈ as.map Given.key
  · obtain ⟨a, ha, rfl⟩ := List.mem_map.mp hk
    rw [assigned, assigned, get_foldl_of_mem _ hnodup a ha,
      get_foldl_of_mem _ hnodup' a (h.mem_iff.mp ha)]
  · have hk' : k ∉ bs.map Given.key := fun hk' => hk (hkeys.mem_iff.mpr hk')
    rw [assigned, assigned, get_foldl_of_not_mem _ hk, get_foldl_of_not_mem _ hk']

/-! ## the text of an object -/

/-- one member with the assignment that it makes, if its name is that of a setting -/
inductive Entry : List Given → List Char → Prop where
  | setting {name : List Char} (a : Given) (g h i j : Gap)
      (hname : Spells name a.key.name.toList) : Entry [a] (Json.memberText g name h i a.text j)
  | other {name spelt v : List Char} (g h i j : Gap) (hname : Spells name spelt)
      (hother : ∀ k : Key, k.name.toList ≠ spelt) (hv : Value v) :
      Entry [] (Json.memberText g name h i v j)

/-- members with commas between them, and the assignments that they make -/
inductive Entries : List Given → List Char → Prop where
  | last {as : List Given} {cs : List Char} (h : Entry as cs) : Entries as cs
  | more {as bs : List Given} {cs ds : List Char} (h : Entry as cs) (hds : Entries bs ds) :
      Entries (as ++ bs) (cs ++ ',' :: ds)

/-- the text is an object that makes these assignments in this order -/
inductive Document : List Given → List Char → Prop where
  | empty (g h i : Gap) : Document [] (g.chars ++ '\x7b' :: (h.chars ++ '\x7d' :: i.chars))
  | entries {as : List Given} {cs : List Char} (g i : Gap) (h : Entries as cs) :
      Document as (g.chars ++ '\x7b' :: (cs ++ '\x7d' :: i.chars))

/-- assignments taken over in their order, with the settings seen then, unless one of them is to a
setting that was seen before -/
def takeOver (c : Config) (seen : List Key) : List Given → Except Problem (Config × List Key)
  | [] => .ok (c, seen)
  | a :: as => if a.key ∈ seen then .error .mistyped else (c.assign a).takeOver (a.key :: seen) as

theorem takeOver_append (c : Config) (seen : List Key) (as bs : List Given) :
    c.takeOver seen (as ++ bs) = (c.takeOver seen as).bind fun s => s.1.takeOver s.2 bs := by
  induction as generalizing c seen with
  | nil => rfl
  | cons a as ih =>
    rw [List.cons_append, takeOver, takeOver]
    split
    · rfl
    · exact ih _ _

theorem takeOver_fresh (c : Config) {seen : List Key} {as : List Given}
    (hfresh : ∀ k ∈ as.map Given.key, k ∉ seen) (hnodup : (as.map Given.key).Nodup) :
    (c.takeOver seen as).map Prod.fst = .ok (as.foldl assign c) := by
  induction as generalizing c seen with
  | nil => rfl
  | cons a as ih =>
    rw [List.map_cons] at hfresh hnodup
    obtain ⟨hlater, hnodup⟩ := List.nodup_cons.mp hnodup
    have hfresh' : ∀ k ∈ as.map Given.key, k ∉ a.key :: seen := by
      intro k hk hmem
      rcases List.mem_cons.mp hmem with rfl | hseen
      · exact hlater hk
      · exact hfresh k (List.mem_cons_of_mem _ hk) hseen
    rw [takeOver, if_neg (hfresh a.key List.mem_cons_self), ih _ hfresh' hnodup, List.foldl_cons]

theorem takeOver_seen (c : Config) {seen : List Key} {as : List Given} {k : Key}
    (hk : k ∈ as.map Given.key) (hseen : k ∈ seen) :
    c.takeOver seen as = .error .mistyped := by
  induction as generalizing c seen with
  | nil => cases hk
  | cons a as ih =>
    rw [takeOver]
    split
    · rfl
    · next hnew =>
      rw [List.map_cons] at hk
      rcases List.mem_cons.mp hk with rfl | hk
      · exact absurd hseen hnew
      · exact ih _ hk (List.mem_cons_of_mem _ hseen)

theorem takeOver_twice (c : Config) (seen : List Key) {as : List Given}
    (htwice : ¬ (as.map Given.key).Nodup) : c.takeOver seen as = .error .mistyped := by
  induction as generalizing c seen with
  | nil => exact absurd List.nodup_nil htwice
  | cons a as ih =>
    rw [takeOver]
    split
    · rfl
    · by_cases hmem : a.key ∈ as.map Given.key
      · exact takeOver_seen _ hmem List.mem_cons_self
      · rw [List.map_cons, List.nodup_cons, not_and] at htwice
        exact ih _ _ (htwice hmem)

/-! ## reading a member -/

theorem readValue_skipBlank (c : Config) (k : Key) (cs : List Char) :
    c.readValue k (skipBlank cs) = c.readValue k cs := by
  cases k <;> simp only [readValue, readNatural, readBool, readOptionalNatural, skipBlank_skipBlank]

theorem readValue_gap (c : Config) (k : Key) (g : Gap) (cs : List Char) :
    c.readValue k (g.chars ++ cs) = c.readValue k cs := by
  rw [← readValue_skipBlank, skipBlank_gap, readValue_skipBlank]

theorem readValue_text (c : Config) (a : Given) {rest : List Char}
    (hrest : EndsNumber rest) : c.readValue a.key (a.text ++ rest) = .ok (c.assign a, rest) := by
  match a with
  | .budget n =>
    have hn : n.toNat ≤ UInt32.size - 1 := Nat.le_sub_one_of_lt n.toNat_lt
    have hread := readNatural_natDigits hn (by decide) hrest
    show (readNatural _ (Text.natDigits n.toNat ++ rest)).map _ = _
    rw [hread, Except.map, UInt32.ofNat_toNat, assign]
  | .delayMs n =>
    have hn : n.toNat ≤ UInt64.size - 1 := Nat.le_sub_one_of_lt n.toNat_lt
    have hread := readNatural_natDigits hn (Nat.le_refl _) hrest
    show (readNatural _ (Text.natDigits n.toNat ++ rest)).map _ = _
    rw [hread, Except.map, UInt64.ofNat_toNat, assign]
  | .allowUnsafe true => rfl
  | .allowUnsafe false => rfl
  | .ceiling (some n) =>
    have hn : n.toNat ≤ UInt64.size - 1 := Nat.le_sub_one_of_lt n.toNat_lt
    have hread := readOptionalNatural_natDigits hn (Nat.le_refl _) hrest
    show (readOptionalNatural _ (Text.natDigits n.toNat ++ rest)).map _ = _
    rw [hread, Except.map, Option.map_some, UInt64.ofNat_toNat, assign]
  | .ceiling none => rfl

theorem Key.ofName?_spelt (k : Key) : Key.ofName? k.name.toList = some k := by
  cases k <;> decide

theorem Key.ofName?_other {spelt : List Char} (h : ∀ k : Key, k.name.toList ≠ spelt) :
    Key.ofName? spelt = none := by
  apply List.find?_eq_none.mpr
  intro k _
  rw [beq_iff_eq]
  exact h k

theorem readColon_gap (h : Gap) (cs : List Char) : readColon (h.chars ++ ':' :: cs) = .ok cs := by
  rw [readColon, skipBlank_gap_cons (c := ':') h cs rfl]
  rfl

section
variable (c : Config) (seen : List Key) {name : List Char} {rest : List Char}

theorem readMember_setting (a : Given) (hname : Spells name a.key.name.toList) (h i : Gap)
    (hrest : EndsNumber rest) :
    c.readMember seen (name ++ '\x22' :: (h.chars ++ ':' :: (i.chars ++ (a.text ++ rest)))) =
      if a.key ∈ seen then .error .mistyped else .ok (c.assign a, a.key :: seen, rest) := by
  simp only [readMember, hname.read, Key.ofName?_spelt, readColon_gap, readValue_gap,
    c.readValue_text a hrest, List.contains_iff_mem]
  rfl

theorem readMember_other {spelt v : List Char} (hname : Spells name spelt)
    (hother : ∀ k : Key, k.name.toList ≠ spelt) (hv : Value v) (h i : Gap)
    (hrest : EndsNumber rest) :
    c.readMember seen (name ++ '\x22' :: (h.chars ++ ':' :: (i.chars ++ (v ++ rest)))) =
      .ok (c, seen, rest) := by
  simp only [readMember, hname.read, Key.ofName?_other hother, readColon_gap,
    skipValue_gap i hv hrest]
  rfl

end

/-! ## reading members -/

/-- a member is read from its quote on, up to the blanks after its value -/
theorem Entry.readMember {as : List Given} {cs : List Char} (h : Entry as cs) (c : Config)
    (seen : List Key) {tail : List Char} (htail : EndsNumber tail) :
    ∃ (r : List Char) (j : Gap), skipBlank (cs ++ tail) = '\x22' :: r ∧
      c.readMember seen r = (c.takeOver seen as).map fun s => (s.1, s.2, j.chars ++ tail) := by
  cases h with
  | setting a g h i j hname =>
    simp only [Json.memberText, List.append_assoc, List.cons_append]
    refine ⟨_, j, skipBlank_gap_cons g _ rfl, ?_⟩
    rw [c.readMember_setting seen a hname h i (htail.gap j), takeOver]
    split <;> rfl
  | other g h i j hname hother hv =>
    simp only [Json.memberText, List.append_assoc, List.cons_append]
    refine ⟨_, j, skipBlank_gap_cons g _ rfl, ?_⟩
    rw [c.readMember_other seen hname hother hv h i (htail.gap j)]
    rfl

theorem Entry.read_comma {as : List Given} {cs : List Char} (h : Entry as cs) (c : Config)
    (seen : List Key) (n : Nat) (rest : List Char) :
    readMembersWith (n + 1) c seen (cs ++ ',' :: rest) =
      (c.takeOver seen as).bind fun s => readMembersWith n s.1 s.2 rest := by
  obtain ⟨r, j, hskip, hread⟩ :=
    h.readMember c seen (EndsNumber.cons (c := ',') rest (by decide))
  rw [readMembersWith]
  simp only [hskip, hread]
  cases c.takeOver seen as with
  | error p => rfl
  | ok s => simp only [Except.map, Except.bind, skipBlank_gap_cons (c := ',') j rest rfl]

theorem Entry.read_end {as : List Given} {cs : List Char} (h : Entry as cs) (c : Config)
    (seen : List Key) (n : Nat) (rest : List Char) :
    readMembersWith (n + 1) c seen (cs ++ '\x7d' :: rest) =
      (c.takeOver seen as).map fun s => (s.1, rest) := by
  obtain ⟨r, j, hskip, hread⟩ :=
    h.readMember c seen (EndsNumber.cons (c := '\x7d') rest (by decide))
  rw [readMembersWith]
  simp only [hskip, hread]
  cases c.takeOver seen as with
  | error p => rfl
  | ok s => simp only [Except.map, skipBlank_gap_cons (c := '\x7d') j rest rfl]

/-- the members up to the closing brace, whatever was read before them -/
theorem Entries.read {as : List Given} {cs : List Char} (h : Entries as cs) (c : Config)
    (seen : List Key) (rest : List Char) {n : Nat} (hn : cs.length < n) :
    readMembersWith n c seen (cs ++ '\x7d' :: rest) =
      (c.takeOver seen as).map fun s => (s.1, rest) := by
  induction h generalizing c seen n with
  | last h =>
    obtain ⟨n, rfl⟩ := Nat.exists_eq_add_one.mpr (Nat.zero_lt_of_lt hn)
    exact h.read_end c seen n rest
  | @more as bs cs ds h hds ih =>
    obtain ⟨n, rfl⟩ := Nat.exists_eq_add_one.mpr (Nat.zero_lt_of_lt hn)
    simp only [List.length_append, List.length_cons] at hn
    rw [List.append_assoc, List.cons_append, h.read_comma, takeOver_append]
    cases c.takeOver seen as with
    | error p => rfl
    | ok s => exact ih s.1 s.2 (by omega)

theorem readMembersWith_skipBlank (n : Nat) (c : Config) (seen : List Key) (cs : List Char) :
    readMembersWith n c seen (skipBlank cs) = readMembersWith n c seen cs := by
  cases n with
  | zero => rfl
  | succ n => rw [readMembersWith, readMembersWith, skipBlank_skipBlank]

theorem Entry.head {as : List Given} {cs : List Char} (h : Entry as cs) (tail : List Char) :
    ∃ r, skipBlank (cs ++ tail) = '\x22' :: r := by
  cases h <;>
    exact ⟨_, by rw [Json.memberText, List.append_assoc, List.cons_append,
      skipBlank_gap_cons _ _ rfl]⟩

theorem Entries.head {as : List Given} {cs : List Char} (h : Entries as cs)
    (tail : List Char) : ∃ r, skipBlank (cs ++ tail) = '\x22' :: r := by
  cases h with
  | last h => exact h.head tail
  | more h hds =>
    rw [List.append_assoc]
    exact h.head _

/-- an object from its opening brace on -/
theorem Entries.readObject {as : List Given} {cs : List Char} (h : Entries as cs)
    (rest : List Char) :
    readObject (cs ++ '\x7d' :: rest) =
      (takeOver {} [] as).map fun s => (s.1, rest) := by
  obtain ⟨r, hr⟩ := h.head ('\x7d' :: rest)
  have hread := h.read {} [] rest (n := (cs ++ '\x7d' :: rest).length + 1)
    (by rw [List.length_append]; omega)
  rw [← readMembersWith_skipBlank, hr] at hread
  simp only [Config.readObject, hr]
  exact hread

theorem skipBlank_all (g : Gap) : skipBlank g.chars = [] := by
  have h := skipBlank_gap g []
  rwa [List.append_nil] at h

/-- a document makes its assignments, one after the other -/
theorem Document.ofChars {as : List Given} {cs : List Char} (h : Document as cs) :
    ofChars cs = (takeOver {} [] as).map Prod.fst := by
  cases h with
  | empty g h i =>
    simp only [Config.ofChars, readDocument, skipBlank_gap_cons (c := '\x7b') g _ rfl,
      Config.readObject, skipBlank_gap_cons (c := '\x7d') h _ rfl, skipBlank_all]
    rfl
  | entries g i h =>
    simp only [Config.ofChars, readDocument, skipBlank_gap_cons (c := '\x7b') g _ rfl,
      h.readObject]
    cases takeOver {} [] as with
    | error p => rfl
    | ok s => simp only [Except.map, skipBlank_all, List.isEmpty_nil, if_true]

theorem Document.ofChars_nodup {as : List Given} {cs : List Char} (h : Document as cs)
    (hnodup : (as.map Given.key).Nodup) : Config.ofChars cs = .ok (assigned as) := by
  rw [h.ofChars]
  exact takeOver_fresh {} (fun _ _ => List.not_mem_nil) hnodup

theorem Document.ofChars_twice {as : List Given} {cs : List Char} (h : Document as cs)
    (htwice : ¬ (as.map Given.key).Nodup) : Config.ofChars cs = .error .mistyped := by
  rw [h.ofChars, takeOver_twice {} [] htwice]
  rfl

theorem Document.ofChars_perm {as bs : List Given} {cs ds : List Char} (h : Document as cs)
    (h' : Document bs ds) (hperm : as.Perm bs) : Config.ofChars cs = Config.ofChars ds := by
  have hkeys := (hperm.map Given.key).nodup_iff
  by_cases hnodup : (as.map Given.key).Nodup
  · rw [h.ofChars_nodup hnodup, h'.ofChars_nodup (hkeys.mp hnodup), assigned_perm hperm hnodup]
  · rw [h.ofChars_twice hnodup, h'.ofChars_twice fun hn => hnodup (hkeys.mpr hn)]

end Config

end Refetch

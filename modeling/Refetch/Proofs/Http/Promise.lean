import Mathlib.Logic.Relation
import Refetch.Proofs.Http.Length
/-!
# What a header promises

A header is given as names in any letter case with their values:

* `Http.ValueStates v n`      the bytes of a value state the length `n`;
* `Http.isLengthPair`, `firstLength?`   the pairs named for the length, and the first of their values;
* `Http.Promises`             when a response promises `n` bytes;
* `expectedLength_iff`        what is read as a promise is one;
* `Http.Edit`                 changes that leave the first length alone;
* `firstLength?_edits`, `expectedLength_eq_of_first`   so they leave the promise alone.
-/

namespace Refetch.Http

open Text

abbrev Pair := String × Bytes

def isLengthPair (p : Pair) : Bool := p.1.toLower == "content-length"

/-- the first value that is named for the length -/
def firstLength? (ps : List Pair) : Option Bytes := (ps.find? isLengthPair).map Prod.snd

def isGap (b : UInt8) : Bool := b.toNat == 0x20 || b.toNat == 0x09

/-- the bytes state the length `n`: one digit or more, with spaces and tabs around them -/
inductive ValueStates : Bytes → Nat → Prop where
  | intro (before ds after : Bytes) (n : Nat) (hb : ∀ b ∈ before, isGap b = true)
      (ha : ∀ b ∈ after, isGap b = true) (hne : ds ≠ [])
      (hd : ∀ b ∈ ds, 0x30 ≤ b.toNat ∧ b.toNat ≤ 0x39)
      (value : Nat.ofDigits 10 (ds.map fun b => b.toNat - 0x30).reverse = n) (fits : n < 2 ^ 64) :
      ValueStates (before ++ ds ++ after) n

/-- a response to this method, with this status and header, promises `n` bytes -/
structure Promises (m : Method) (s : Status) (ps : List Pair) (n : Nat) : Prop where
  method : m.name ≠ "HEAD"
  final : ¬ (100 ≤ s.code ∧ s.code ≤ 199)
  content : s.code ≠ 204
  modified : s.code ≠ 304
  /-- later lengths are not looked at -/
  first : ∃ v, firstLength? ps = some v ∧ ValueStates v n

/-! ## values -/

def charOf (b : UInt8) : Char := Char.ofNat b.toNat

theorem isTextByte_iff (b : UInt8) :
    isTextByte b = true ↔ b.toNat = 9 ∨ 32 ≤ b.toNat ∧ b.toNat < 127 := by
  simp [isTextByte, UInt8.le_iff_toNat_le, UInt8.lt_iff_toNat_lt, ← UInt8.toNat_inj]

theorem isGap_iff (b : UInt8) : isGap b = true ↔ b.toNat = 32 ∨ b.toNat = 9 := by
  rw [isGap, Bool.or_eq_true, beq_iff_eq, beq_iff_eq]

theorem toNat_ofNat {n : Nat} (h : n.isValidChar) : (Char.ofNat n).toNat = n := by
  rw [Char.ofNat, dif_pos h]
  rfl

theorem toNat_charOf {b : UInt8} (h : isTextByte b = true) : (charOf b).toNat = b.toNat := by
  rw [isTextByte_iff] at h
  exact toNat_ofNat (.inl (by omega))

theorem valueText?_eq_some_iff (v : Bytes) (cs : List Char) :
    valueText? v = some cs ↔ (∀ b ∈ v, isTextByte b = true) ∧ v.map charOf = cs := by
  unfold valueText?
  by_cases h : v.all isTextByte = true
  · rw [if_pos h, Option.some.injEq]
    exact (and_iff_right (List.all_eq_true.mp h)).symm
  · rw [if_neg h]
    exact ⟨fun he => (Option.some_ne_none _ he.symm).elim,
      fun he => absurd (List.all_eq_true.mpr he.1) h⟩

/-- among the bytes of a text only the space and the tab are blank -/
theorem charOf_blank_iff {b : UInt8} (h : isTextByte b = true) :
    (charOf b).toNat ∈ whiteSpace ↔ isGap b = true := by
  rw [toNat_charOf h, isGap_iff]
  rw [isTextByte_iff] at h
  simp only [whiteSpace, List.mem_cons, List.not_mem_nil, or_false]
  omega

theorem charOf_digit_iff {b : UInt8} (h : isTextByte b = true) :
    ('0' ≤ charOf b ∧ charOf b ≤ '9') ↔ 0x30 ≤ b.toNat ∧ b.toNat ≤ 0x39 := by
  rw [← isDigit_iff, isDigit, toNat_charOf h, Bool.and_eq_true, decide_eq_true_eq,
    decide_eq_true_eq]

theorem map_charOf_sub {ds : Bytes} (h : ∀ b ∈ ds, isTextByte b = true) :
    (ds.map charOf).map (fun c => c.toNat - '0'.toNat) = ds.map fun b => b.toNat - 0x30 := by
  rw [List.map_map]
  refine List.map_congr_left fun b hb => ?_
  show (charOf b).toNat - 48 = b.toNat - 48
  rw [toNat_charOf (h b hb)]

theorem states_map_charOf {v : Bytes} {n : Nat} (hv : ∀ b ∈ v, isTextByte b = true) :
    States (v.map charOf) n ↔ ValueStates v n := by
  constructor
  · intro h
    generalize hcs : v.map charOf = cs at h
    obtain ⟨before, ds, after, n, hb, ha, hn, fits⟩ := h
    obtain ⟨front, after, rfl, hfront, rfl⟩ := List.map_eq_append_iff.mp hcs
    obtain ⟨before, ds, rfl, rfl, rfl⟩ := List.map_eq_append_iff.mp hfront
    simp only [List.mem_append] at hv
    have hds : ∀ b ∈ ds, isTextByte b = true := fun b hm => hv b (.inl (.inr hm))
    refine .intro before ds after n ?_ ?_ ?_ ?_ ?_ fits
    · intro b hm
      exact (charOf_blank_iff (hv b (.inl (.inl hm)))).mp (hb _ (List.mem_map_of_mem hm))
    · intro b hm
      exact (charOf_blank_iff (hv b (.inr hm))).mp (ha _ (List.mem_map_of_mem hm))
    · exact fun he => hn.ne_nil (by rw [he, List.map_nil])
    · intro b hm
      exact (charOf_digit_iff (hds b hm)).mp (hn.digits _ (List.mem_map_of_mem hm))
    · rw [← map_charOf_sub hds]
      exact hn.value
  · rintro ⟨before, ds, after, n, hb, ha, hne, hd, value, fits⟩
    simp only [List.mem_append] at hv
    have hds : ∀ b ∈ ds, isTextByte b = true := fun b hm => hv b (.inl (.inr hm))
    rw [List.map_append, List.map_append]
    refine .intro _ _ _ n ?_ ?_ ⟨?_, ?_, ?_⟩ fits
    · intro c hc
      obtain ⟨b, hm, rfl⟩ := List.mem_map.mp hc
      exact (charOf_blank_iff (hv b (.inl (.inl hm)))).mpr (hb b hm)
    · intro c hc
      obtain ⟨b, hm, rfl⟩ := List.mem_map.mp hc
      exact (charOf_blank_iff (hv b (.inr hm))).mpr (ha b hm)
    · exact fun he => hne (List.map_eq_nil_iff.mp he)
    · intro c hc
      obtain ⟨b, hm, rfl⟩ := List.mem_map.mp hc
      exact (charOf_digit_iff (hds b hm)).mpr (hd b hm)
    · rw [map_charOf_sub hds]
      exact value

theorem ValueStates.isTextByte {v : Bytes} {n : Nat} (h : ValueStates v n) :
    ∀ b ∈ v, isTextByte b = true := by
  obtain ⟨before, ds, after, n, hb, ha, hne, hd, value, fits⟩ := h
  intro b hm
  rw [isTextByte_iff]
  simp only [List.mem_append] at hm
  rcases hm with (hm | hm) | hm
  · have hg := (isGap_iff b).mp (hb b hm)
    omega
  · have hg := hd b hm
    omega
  · have hg := (isGap_iff b).mp (ha b hm)
    omega

theorem valueLength_iff (v : Bytes) (n : Nat) :
    (valueText? v).bind parseLength = some n ↔ ValueStates v n := by
  rw [Option.bind_eq_some_iff]
  constructor
  · rintro ⟨cs, htext, hread⟩
    obtain ⟨hv, rfl⟩ := (valueText?_eq_some_iff v cs).mp htext
    exact (states_map_charOf hv).mp ((parseLength_eq_some_iff _ n).mp hread)
  · intro h
    have hv := h.isTextByte
    exact ⟨v.map charOf, (valueText?_eq_some_iff v _).mpr ⟨hv, rfl⟩,
      (parseLength_eq_some_iff _ n).mpr ((states_map_charOf hv).mpr h)⟩

/-! ## headers -/

theorem lowerChar_eq (c : Char) : lowerChar c = c.toLower := by
  unfold lowerChar Char.toLower
  by_cases h : 65 ≤ c.toNat ∧ c.toNat ≤ 90
  · have hc : c.val ≥ 'A'.val ∧ c.val ≤ 'Z'.val := h
    have hv : (c.toNat + 32).isValidChar := .inl (by omega)
    have hle : c.val.toNat ≤ 90 := h.2
    rw [if_pos (by simpa using h), dif_pos hc, ← Char.toNat_inj, toNat_ofNat hv]
    show c.val.toNat + 32 = (c.val + 32).toNat
    rw [UInt32.toNat_add, show (32 : UInt32).toNat = 32 from rfl]
    omega
  · have hc : ¬ (c.val ≥ 'A'.val ∧ c.val ≤ 'Z'.val) := h
    rw [if_neg (by simpa using h), dif_neg hc]

theorem lower_eq (s : String) : lower s = s.toLower := by
  show lower s = s.map Char.toLower
  rw [← String.toList_inj, lower, String.toList_map, String.toList_ofList]
  exact List.map_congr_left fun c _ => lowerChar_eq c

/-- a pair that a header may hold -/
def Pair.isAdmissible (p : Pair) : Bool := isToken p.1 && p.2.all isValueByte

def Pair.field (p : Pair) : Field := ⟨lower p.1, p.2⟩

theorem ofList?_eq_some_iff (ps : List Pair) (fs : Fields) :
    Fields.ofList? ps = some fs ↔ (∀ p ∈ ps, p.isAdmissible = true) ∧ ps.map Pair.field = fs := by
  induction ps generalizing fs with
  | nil => simp [Fields.ofList?]
  | cons p ps ih =>
    have hcons : Fields.ofList? (p :: ps)
        = (Field.ofPair? p).bind fun f => (Fields.ofList? ps).bind fun fs => some (f :: fs) := by
      rw [Fields.ofList?, List.mapM_cons]
      rfl
    rw [hcons]
    cases hp : p.isAdmissible with
    | false =>
      have hf : Field.ofPair? p = none :=
        if_neg (by rw [← Pair.isAdmissible, hp]; exact Bool.false_ne_true)
      simp [hf, hp]
    | true =>
      have hf : Field.ofPair? p = some p.field := if_pos hp
      rw [hf, Option.bind_some, Option.bind_eq_some_iff]
      simp only [ih, Option.some.injEq, List.forall_mem_cons, hp, true_and, List.map_cons]
      constructor
      · rintro ⟨fs, ⟨hps, rfl⟩, rfl⟩
        exact ⟨hps, rfl⟩
      · rintro ⟨hps, rfl⟩
        exact ⟨_, ⟨hps, rfl⟩, rfl⟩

theorem first?_fields (ps : List Pair) :
    Fields.first? (ps.map Pair.field) lengthField = firstLength? ps := by
  have hname : ((fun f : Field => f.name == lengthField) ∘ Pair.field) = isLengthPair := by
    funext p
    show (lower p.1 == lengthField) = isLengthPair p
    rw [lower_eq]
    rfl
  rw [Fields.first?, List.find?_map, hname, Option.map_map]
  rfl

theorem mayHaveBody_iff (m : Method) (s : Status) : mayHaveBody m s = true ↔
    m.name ≠ "HEAD" ∧ ¬ (100 ≤ s.code ∧ s.code ≤ 199) ∧ s.code ≠ 204 ∧ s.code ≠ 304 := by
  obtain ⟨name⟩ := m
  obtain ⟨code⟩ := s
  simp only [mayHaveBody, Method.head, Status.noContent, Status.notModified,
    Status.isInformational, Bool.and_eq_true, bne_iff_ne, ne_eq, Method.mk.injEq, Status.mk.injEq,
    Bool.not_eq_eq_eq_not, Bool.not_true, Bool.and_eq_false_iff, decide_eq_false_iff_not]
  constructor
  · rintro ⟨⟨⟨hm, hc⟩, hn⟩, hi⟩
    exact ⟨hm, by omega, hc, hn⟩
  · rintro ⟨hm, hi, hc, hn⟩
    exact ⟨⟨⟨hm, hc⟩, hn⟩, by omega⟩

theorem expectedLength_iff {ps : List Pair} {fs : Fields} (h : Fields.ofList? ps = some fs)
    (m : Method) (s : Status) (n : Nat) :
    expectedLength m s fs = some n ↔ Promises m s ps n := by
  obtain ⟨-, rfl⟩ := (ofList?_eq_some_iff ps fs).mp h
  have hread : declaredLength (ps.map Pair.field) = some n
      ↔ ∃ v, firstLength? ps = some v ∧ ValueStates v n := by
    rw [declaredLength, first?_fields, Option.bind_assoc, Option.bind_eq_some_iff]
    simp only [valueLength_iff]
  unfold expectedLength
  constructor
  · intro hn
    split_ifs at hn with hbody
    · obtain ⟨hm, hi, hc, hmod⟩ := (mayHaveBody_iff m s).mp hbody
      exact ⟨hm, hi, hc, hmod, hread.mp hn⟩
  · rintro ⟨hm, hi, hc, hmod, hfirst⟩
    rw [if_pos ((mayHaveBody_iff m s).mpr ⟨hm, hi, hc, hmod⟩)]
    exact hread.mpr hfirst

/-! ## changes -/

/-- one change of a header that leaves the first length alone -/
inductive Edit : List Pair → List Pair → Prop where
  | insert (a b : List Pair) (p : Pair) (hp : isLengthPair p = false) : Edit (a ++ b) (a ++ p :: b)
  | remove (a b : List Pair) (p : Pair) (hp : isLengthPair p = false) : Edit (a ++ p :: b) (a ++ b)
  /-- two neighbours change places, one of them of another name -/
  | swap (a b : List Pair) (p q : Pair) (h : isLengthPair p = false ∨ isLengthPair q = false) :
      Edit (a ++ p :: q :: b) (a ++ q :: p :: b)
  /-- a length comes in behind another one -/
  | further (a b : List Pair) (p q : Pair) (hp : p ∈ a) (hl : isLengthPair p = true) :
      Edit (a ++ b) (a ++ q :: b)

theorem find?_isSome {a : List Pair} {p : Pair} (hp : p ∈ a) (hl : isLengthPair p = true) :
    ∃ q, a.find? isLengthPair = some q := by
  rw [← Option.isSome_iff_exists, List.find?_isSome]
  exact ⟨p, hp, hl⟩

theorem firstLength?_edit {ps qs : List Pair} (h : Edit ps qs) : firstLength? qs = firstLength? ps := by
  unfold firstLength?
  cases h with
  | insert a b p hp => rw [List.find?_append, List.find?_append, List.find?_cons, hp]
  | remove a b p hp => rw [List.find?_append, List.find?_append, List.find?_cons, hp]
  | swap a b p q h =>
    rw [List.find?_append, List.find?_append]
    rcases h with hp | hq
    · simp only [List.find?_cons, hp]
    · simp only [List.find?_cons, hq]
  | further a b p q hp hl =>
    obtain ⟨first, hfirst⟩ := find?_isSome hp hl
    rw [List.find?_append, List.find?_append, hfirst, Option.some_or, Option.some_or]

theorem firstLength?_edits {ps qs : List Pair} (h : Relation.ReflTransGen Edit ps qs) :
    firstLength? qs = firstLength? ps := by
  induction h with
  | refl => rfl
  | tail _ hedit ih => rw [firstLength?_edit hedit, ih]

theorem expectedLength_eq_of_first {ps qs : List Pair} {fs gs : Fields}
    (hps : Fields.ofList? ps = some fs) (hqs : Fields.ofList? qs = some gs)
    (h : firstLength? qs = firstLength? ps) (m : Method) (s : Status) :
    expectedLength m s gs = expectedLength m s fs := by
  obtain ⟨-, rfl⟩ := (ofList?_eq_some_iff ps fs).mp hps
  obtain ⟨-, rfl⟩ := (ofList?_eq_some_iff qs gs).mp hqs
  rw [expectedLength, declaredLength, first?_fields, h, ← first?_fields, ← declaredLength,
    ← expectedLength]

end Refetch.Http

import Mathlib.Data.List.DropRight
import Refetch.Proofs.Json.Plain
/-!
# The grammar of JSON

The texts that JSON allows, as relations on characters that say nothing about readers, and the
two string readers on them:

* `Gap`                            blanks, any number of them;
* `Spells cs name`, `Body cs`      what stands between the quotes of a string.  `Spells` decodes it
                                   and asks for surrogates in pairs; `Body` allows any units;
* `Whole`, `Fraction`, `Exponent`  the parts of a number, which may be of any size;
* `Value`, `Elements`, `Members`   a value of any depth, the inside of a list and of an object;
* `Spells.read`, `Body.skip`       each reader takes such a string in up to its quote.
-/

namespace Refetch.Json

open Text

/-! ## blanks -/

structure Gap where
  chars : List Char
  blank : ∀ c ∈ chars, c ∈ [' ', '\t', '\n', '\r']

def Gap.none : Gap := ⟨[], nofun⟩

theorem Gap.isBlank (g : Gap) : ∀ c ∈ g.chars, isBlank c = true := by
  intro c hc
  have h := g.blank c hc
  simp only [List.mem_cons, List.not_mem_nil, or_false] at h
  obtain rfl | rfl | rfl | rfl := h <;> rfl

theorem skipBlank_gap (g : Gap) (cs : List Char) : skipBlank (g.chars ++ cs) = skipBlank cs :=
  List.dropWhile_append_of_pos g.isBlank

theorem skipBlank_gap_cons (g : Gap) {c : Char} (cs : List Char) (h : isBlank c = false) :
    skipBlank (g.chars ++ c :: cs) = c :: cs := by
  rw [skipBlank_gap, skipBlank_cons cs h]

theorem skipBlank_skipBlank (cs : List Char) : skipBlank (skipBlank cs) = skipBlank cs :=
  List.dropWhile_idempotent _ _

theorem EndsNumber.gap (g : Gap) {cs : List Char} (h : EndsNumber cs) :
    EndsNumber (g.chars ++ cs) := by
  cases hg : g.chars with
  | nil => exact h
  | cons c gs =>
    have hc := g.blank c (by rw [hg]; exact List.mem_cons_self)
    simp only [List.mem_cons, List.not_mem_nil, or_false] at hc
    apply EndsNumber.cons
    obtain rfl | rfl | rfl | rfl := hc <;> decide

/-! ## strings -/

/-- a 16-bit unit in four hexadecimal digits -/
structure Quad (ds : List Char) (n : Nat) : Prop where
  length : ds.length = 4
  digits : ∀ c ∈ ds, isHexDigit c = true
  value : natOfHex ds = n

/-- the letters of the short escapes, with the characters that they stand for -/
def letters : List (Char × Char) :=
  [('\x22', '\x22'), ('\x5c', '\x5c'), ('/', '/'), ('b', '\x08'), ('f', '\x0c'), ('n', '\n'),
    ('r', '\r'), ('t', '\t')]

/-- the text between the quotes of a string that stands for `name` -/
inductive Spells : List Char → List Char → Prop where
  | done : Spells [] []
  | plain {c : Char} {cs name : List Char} (hc : isPlain c = true) (h : Spells cs name) :
      Spells (c :: cs) (c :: name)
  | letter {e c : Char} {cs name : List Char} (he : (e, c) ∈ letters) (h : Spells cs name) :
      Spells ('\x5c' :: e :: cs) (c :: name)
  | unit {ds cs name : List Char} {n : Nat} (hd : Quad ds n) (hn : n < 0xD800 ∨ 0xDFFF < n)
      (h : Spells cs name) : Spells ('\x5c' :: 'u' :: (ds ++ cs)) (Char.ofNat n :: name)
  | pair {ds es cs name : List Char} {high low : Nat} (hd : Quad ds high) (he : Quad es low)
      (hhigh : 0xD800 ≤ high ∧ high ≤ 0xDBFF) (hlow : 0xDC00 ≤ low ∧ low ≤ 0xDFFF)
      (h : Spells cs name) :
      Spells ('\x5c' :: 'u' :: (ds ++ '\x5c' :: 'u' :: (es ++ cs)))
        (Char.ofNat ((high - 0xD800) * 1024 + (low - 0xDC00) + 0x10000) :: name)

/-- the text between the quotes of a string, a surrogate with or without its other half -/
inductive Body : List Char → Prop where
  | done : Body []
  | plain {c : Char} {cs : List Char} (hc : isPlain c = true) (h : Body cs) : Body (c :: cs)
  | letter {e c : Char} {cs : List Char} (he : (e, c) ∈ letters) (h : Body cs) :
      Body ('\x5c' :: e :: cs)
  | unit {ds cs : List Char} {n : Nat} (hd : Quad ds n) (h : Body cs) :
      Body ('\x5c' :: 'u' :: (ds ++ cs))

theorem Spells.plains {cs ds name : List Char} (hcs : ∀ c ∈ cs, isPlain c = true)
    (h : Spells ds name) : Spells (cs ++ ds) (cs ++ name) := by
  induction cs with
  | nil => exact h
  | cons c cs ih =>
    exact .plain (hcs c List.mem_cons_self) (ih fun d hd => hcs d (List.mem_cons_of_mem _ hd))

theorem Quad.hexUnit {ds : List Char} {n : Nat} (h : Quad ds n) (rest : List Char) :
    hexUnit (ds ++ rest) = .ok (n, rest) := by
  obtain ⟨a, b, c, d, rfl⟩ := List.length_eq_four.mp h.length
  have hdigit : ∀ x ∈ [a, b, c, d], ∃ v, hexValue? x = some v := fun x hx =>
    Option.isSome_iff_exists.mp (h.digits x hx)
  obtain ⟨va, ha⟩ := hdigit a (by simp)
  obtain ⟨vb, hb⟩ := hdigit b (by simp)
  obtain ⟨vc, hc⟩ := hdigit c (by simp)
  obtain ⟨vd, hd⟩ := hdigit d (by simp)
  have hvalue := h.value
  simp only [natOfHex, List.foldl_cons, List.foldl_nil, ha, hb, hc, hd, Option.getD_some] at hvalue
  have hunit : hexValues? a b c d = some n := by
    simp only [hexValues?, ha, hb, hc, hd, Option.bind_eq_bind, Option.bind_some, Option.pure_def,
      Option.some.injEq]
    omega
  show Json.hexUnit (a :: b :: c :: d :: rest) = _
  simp only [Json.hexUnit, hunit]

theorem shortEscape?_letter {e c : Char} (h : (e, c) ∈ letters) :
    e ≠ 'u' ∧ shortEscape? e = some c := by
  simp only [letters, List.mem_cons, List.not_mem_nil, or_false, Prod.mk.injEq] at h
  obtain ⟨rfl, rfl⟩ | ⟨rfl, rfl⟩ | ⟨rfl, rfl⟩ | ⟨rfl, rfl⟩ | ⟨rfl, rfl⟩ | ⟨rfl, rfl⟩ | ⟨rfl, rfl⟩ |
    ⟨rfl, rfl⟩ := h <;> exact ⟨by decide, rfl⟩

theorem readEscape_letter {e c : Char} (h : (e, c) ∈ letters) (rest : List Char) :
    readEscape (e :: rest) = .ok (c, rest) := by
  obtain ⟨hu, hshort⟩ := shortEscape?_letter h
  simp only [readEscape, if_neg hu, hshort]

theorem readEscape_unit {ds : List Char} {n : Nat} (hd : Quad ds n)
    (hn : n < 0xD800 ∨ 0xDFFF < n) (rest : List Char) :
    readEscape ('u' :: (ds ++ rest)) = .ok (Char.ofNat n, rest) := by
  have hlow : isLow n = false := by simp [isLow]; omega
  have hhigh : isHigh n = false := by simp [isHigh]; omega
  simp only [readEscape, if_true, hd.hexUnit, hlow, hhigh, Bool.false_eq_true, if_false]

theorem readEscape_pair {ds es : List Char} {high low : Nat} (hd : Quad ds high)
    (he : Quad es low) (hhigh : 0xD800 ≤ high ∧ high ≤ 0xDBFF)
    (hlow : 0xDC00 ≤ low ∧ low ≤ 0xDFFF) (rest : List Char) :
    readEscape ('u' :: (ds ++ '\x5c' :: 'u' :: (es ++ rest))) =
      .ok (Char.ofNat ((high - 0xD800) * 1024 + (low - 0xDC00) + 0x10000), rest) := by
  have h1 : isLow high = false := by simp [isLow]; omega
  have h2 : isHigh high = true := by simp [isHigh]; omega
  have h3 : isLow low = true := by simp [isLow]; omega
  simp only [readEscape, if_true, hd.hexUnit, h1, h2, Bool.false_eq_true, if_false, pairWith,
    he.hexUnit, h3]

theorem skipEscape_letter {e c : Char} (h : (e, c) ∈ letters) (rest : List Char) :
    skipEscape (e :: rest) = .ok rest := by
  obtain ⟨hu, hshort⟩ := shortEscape?_letter h
  simp only [skipEscape, if_neg hu, hshort, Option.isSome_some, if_true]

theorem skipEscape_unit {ds : List Char} {n : Nat} (hd : Quad ds n) (rest : List Char) :
    skipEscape ('u' :: (ds ++ rest)) = .ok rest := by
  simp only [skipEscape, if_true, hd.hexUnit, Except.map]

theorem ne_of_isPlain {c : Char} (hc : isPlain c = true) :
    c ≠ '\x22' ∧ c ≠ '\x5c' ∧ isControl c = false := by
  simpa [isPlain, and_assoc] using hc

/-! Both string readers step over an escape as a whole, so each case of the grammar takes one unit
of fuel, and the text is at least as long. -/

theorem Spells.readWith {cs name : List Char} (h : Spells cs name) (rest : List Char) {n : Nat}
    (hn : cs.length < n) : readStringWith n (cs ++ '\x22' :: rest) = .ok (name, rest) := by
  induction h generalizing n with
  | done =>
    obtain ⟨n, rfl⟩ := Nat.exists_eq_add_one.mpr hn
    rfl
  | @plain c cs name hc h ih =>
    obtain ⟨n, rfl⟩ := Nat.exists_eq_add_one.mpr (Nat.zero_lt_of_lt hn)
    obtain ⟨hquote, hslash, hcontrol⟩ := ne_of_isPlain hc
    rw [List.cons_append, readStringWith, if_neg hquote, if_neg hslash, hcontrol,
      ih (Nat.lt_of_succ_lt_succ hn)]
    rfl
  | @letter e c cs name he h ih =>
    obtain ⟨n, rfl⟩ := Nat.exists_eq_add_one.mpr (Nat.zero_lt_of_lt hn)
    have hrest := ih (n := n) (by simp only [List.length_cons] at hn; omega)
    rw [List.cons_append, List.cons_append, readStringWith, if_neg (by decide), if_pos rfl,
      readEscape_letter he]
    simp only [hrest, Except.map]
  | @unit ds cs name u hd hu h ih =>
    obtain ⟨n, rfl⟩ := Nat.exists_eq_add_one.mpr (Nat.zero_lt_of_lt hn)
    have hrest := ih (n := n) (by simp only [List.length_cons, List.length_append] at hn; omega)
    rw [List.cons_append, List.cons_append, List.append_assoc, readStringWith,
      if_neg (by decide), if_pos rfl, readEscape_unit hd hu]
    simp only [hrest, Except.map]
  | @pair ds es cs name high low hd he hhigh hlow h ih =>
    obtain ⟨n, rfl⟩ := Nat.exists_eq_add_one.mpr (Nat.zero_lt_of_lt hn)
    have hrest := ih (n := n) (by simp only [List.length_cons, List.length_append] at hn; omega)
    rw [List.cons_append, List.cons_append, List.append_assoc, List.cons_append, List.cons_append,
      List.append_assoc, readStringWith, if_neg (by decide), if_pos rfl,
      readEscape_pair hd he hhigh hlow]
    simp only [hrest, Except.map]

/-- a string is read as what it spells -/
theorem Spells.read {cs name : List Char} (h : Spells cs name) (rest : List Char) :
    readString (cs ++ '\x22' :: rest) = .ok (name, rest) :=
  h.readWith rest (by rw [List.length_append]; omega)

theorem Body.skipWith {cs : List Char} (h : Body cs) (rest : List Char) {n : Nat}
    (hn : cs.length < n) : skipStringWith n (cs ++ '\x22' :: rest) = .ok rest := by
  induction h generalizing n with
  | done =>
    obtain ⟨n, rfl⟩ := Nat.exists_eq_add_one.mpr hn
    rfl
  | @plain c cs hc h ih =>
    obtain ⟨n, rfl⟩ := Nat.exists_eq_add_one.mpr (Nat.zero_lt_of_lt hn)
    obtain ⟨hquote, hslash, hcontrol⟩ := ne_of_isPlain hc
    rw [List.cons_append, skipStringWith, if_neg hquote, if_neg hslash, hcontrol]
    exact ih (Nat.lt_of_succ_lt_succ hn)
  | @letter e c cs he h ih =>
    obtain ⟨n, rfl⟩ := Nat.exists_eq_add_one.mpr (Nat.zero_lt_of_lt hn)
    rw [List.cons_append, List.cons_append, skipStringWith, if_neg (by decide), if_pos rfl,
      skipEscape_letter he]
    exact ih (by simp only [List.length_cons] at hn; omega)
  | @unit ds cs u hd h ih =>
    obtain ⟨n, rfl⟩ := Nat.exists_eq_add_one.mpr (Nat.zero_lt_of_lt hn)
    rw [List.cons_append, List.cons_append, List.append_assoc, skipStringWith,
      if_neg (by decide), if_pos rfl, skipEscape_unit hd]
    exact ih (by simp only [List.length_cons, List.length_append] at hn; omega)

/-- a string is passed over up to its quote -/
theorem Body.skip {cs : List Char} (h : Body cs) (rest : List Char) :
    skipString (cs ++ '\x22' :: rest) = .ok rest :=
  h.skipWith rest (by rw [List.length_append]; omega)

/-! ## numbers and values -/

structure Digits (ds : List Char) : Prop where
  ne_nil : ds ≠ []
  digits : ∀ c ∈ ds, isDigit c = true

/-- the whole digits of a number: a zero alone, or a first digit that is not zero and others -/
inductive Whole : List Char → Prop where
  | zero : Whole ['0']
  | digits {c : Char} {ds : List Char} (hc : isDigit c = true) (hz : c ≠ '0')
      (hd : ∀ d ∈ ds, isDigit d = true) : Whole (c :: ds)

inductive Fraction : List Char → Prop where
  | absent : Fraction []
  | present {ds : List Char} (hd : Digits ds) : Fraction ('.' :: ds)

inductive Exponent : List Char → Prop where
  | absent : Exponent []
  | present {e : Char} {sign ds : List Char} (he : e = 'e' ∨ e = 'E')
      (hs : sign ∈ [[], ['+'], ['-']]) (hd : Digits ds) : Exponent (e :: (sign ++ ds))

/-- a member of an object: its name, a colon and its value, with blanks around each of them -/
def memberText (g : Gap) (name : List Char) (h i : Gap) (value : List Char) (j : Gap) :
    List Char :=
  g.chars ++ '\x22' :: (name ++ '\x22' :: (h.chars ++ ':' :: (i.chars ++ (value ++ j.chars))))

mutual

/-- a value of any depth, without the blanks around it -/
inductive Value : List Char → Prop where
  | null : Value ['n', 'u', 'l', 'l']
  | yes : Value ['t', 'r', 'u', 'e']
  | no : Value ['f', 'a', 'l', 's', 'e']
  | number {w f x : List Char} (hw : Whole w) (hf : Fraction f) (hx : Exponent x) :
      Value (w ++ (f ++ x))
  | negative {w f x : List Char} (hw : Whole w) (hf : Fraction f) (hx : Exponent x) :
      Value ('-' :: (w ++ (f ++ x)))
  | string {cs : List Char} (h : Body cs) : Value ('\x22' :: (cs ++ ['\x22']))
  | emptyList (g : Gap) : Value ('[' :: (g.chars ++ [']']))
  | list {cs : List Char} (h : Elements cs) : Value ('[' :: (cs ++ [']']))
  | emptyObject (g : Gap) : Value ('\x7b' :: (g.chars ++ ['\x7d']))
  | object {cs : List Char} (h : Members cs) : Value ('\x7b' :: (cs ++ ['\x7d']))

inductive Elements : List Char → Prop where
  | last {v : List Char} (g h : Gap) (hv : Value v) : Elements (g.chars ++ (v ++ h.chars))
  | more {v cs : List Char} (g h : Gap) (hv : Value v) (hcs : Elements cs) :
      Elements (g.chars ++ (v ++ (h.chars ++ ',' :: cs)))

inductive Members : List Char → Prop where
  | last {name v : List Char} (g h i j : Gap) (hname : Body name) (hv : Value v) :
      Members (memberText g name h i v j)
  | more {name v cs : List Char} (g h i j : Gap) (hname : Body name) (hv : Value v)
      (hcs : Members cs) : Members (memberText g name h i v j ++ ',' :: cs)

end

end Refetch.Json

import Refetch.Http.Length
import Refetch.Proofs.Text.Decimal
import Refetch.Proofs.Text.Trim
/-!
# The grammar of a length field

Which texts state a length, and which do not:

* `Numeral`, `Blanks`     the two things that such a text is made of;
* `Http.States v n`       `v` is a numeral with blanks around it, and its value `n` fits a word;
* `Http.Malformed v`      what may be wrong with a text that states nothing;
* `parseLength_padded`    how a text of digits with blanks around it is read;
* `length_grammar`        the reader takes in the texts that state a length, with their lengths,
                          and refuses the malformed ones: every text is one or the other.

The value of a numeral is its positional value to the base ten, so zeros may lead it in any number.
-/

namespace Refetch.Http

open Text

/-- a numeral to the base ten with the value `n`: one digit or more, the leading ones may be zero -/
structure Numeral (ds : List Char) (n : Nat) : Prop where
  ne_nil : ds ≠ []
  digits : ∀ c ∈ ds, '0' ≤ c ∧ c ≤ '9'
  value : Nat.ofDigits 10 (ds.map fun c => c.toNat - '0'.toNat).reverse = n

def Blanks (cs : List Char) : Prop := ∀ c ∈ cs, c.toNat ∈ whiteSpace

/-- the text states the length `n` -/
inductive States : List Char → Nat → Prop where
  | intro (before ds after : List Char) (n : Nat) (hb : Blanks before) (ha : Blanks after)
      (hn : Numeral ds n) (fits : n < 2 ^ 64) : States (before ++ ds ++ after) n

/-- the text states no length -/
inductive Malformed : List Char → Prop where
  | blank (v : List Char) (h : Blanks v) : Malformed v
  | stray (v : List Char) (c : Char) (hc : c ∈ v) (hb : c.toNat ∉ whiteSpace)
      (hd : ¬ ('0' ≤ c ∧ c ≤ '9')) : Malformed v
  /-- a blank parts its digits -/
  | parted (x y : List Char) (w d e : Char) (hw : w.toNat ∈ whiteSpace) (hd : d ∈ x)
      (hdd : '0' ≤ d ∧ d ≤ '9') (he : e ∈ y) (hed : '0' ≤ e ∧ e ≤ '9') : Malformed (x ++ w :: y)
  /-- its numeral is too large for a word -/
  | huge (before ds after : List Char) (n : Nat) (hb : Blanks before) (ha : Blanks after)
      (hn : Numeral ds n) (large : 2 ^ 64 ≤ n) : Malformed (before ++ ds ++ after)

theorem blanks_iff (cs : List Char) : Blanks cs ↔ ∀ c ∈ cs, isBlank c = true := by
  simp only [Blanks, isBlank_iff]

theorem isBlank_of_isDigit {c : Char} (h : isDigit c = true) : isBlank c = false := by
  simp only [isDigit, Bool.and_eq_true, decide_eq_true_eq] at h
  simp only [isBlank, Bool.or_eq_false_iff, Bool.and_eq_false_iff, decide_eq_false_iff_not,
    beq_eq_false_iff_ne]
  omega

theorem Numeral.all {ds : List Char} {n : Nat} (h : Numeral ds n) :
    ∀ c ∈ ds, isDigit c = true := fun c hc => (isDigit_iff c).mpr (h.digits c hc)

theorem Numeral.natOf_eq {ds : List Char} {n : Nat} (h : Numeral ds n) : natOf ds = n :=
  (natOf_eq_ofDigits ds).trans h.value

theorem numeral_natOf {ds : List Char} (hne : ds ≠ []) (hd : ∀ c ∈ ds, isDigit c = true) :
    Numeral ds (natOf ds) :=
  ⟨hne, fun c hc => (isDigit_iff c).mp (hd c hc), (natOf_eq_ofDigits ds).symm⟩

/-- zeros before the plain text of a number do not change its value -/
theorem numeral_zeros (k n : Nat) : Numeral (List.replicate k '0' ++ natDigits n) n := by
  have hne : List.replicate k '0' ++ natDigits n ≠ [] :=
    List.append_ne_nil_of_right_ne_nil _ (natDigits_ne_nil n)
  have hd : ∀ c ∈ List.replicate k '0' ++ natDigits n, isDigit c = true := by
    intro c hc
    rcases List.mem_append.mp hc with hc | hc
    · rw [List.eq_of_mem_replicate hc]
      rfl
    · exact isDigit_of_mem_natDigits hc
  have hn := numeral_natOf hne hd
  rwa [natOf_zeros, natOf_natDigits] at hn

/-! ## the reader -/

theorem parseLength_padded {before ds after : List Char} {n : Nat} (hb : Blanks before)
    (ha : Blanks after) (hn : Numeral ds n) :
    parseLength (before ++ ds ++ after) = if n ≤ countCap then some n else none := by
  rw [blanks_iff] at hb ha
  have htrim := trim_solid hb ha fun c hc => isBlank_of_isDigit (hn.all c hc)
  have hne : ds.isEmpty = false := List.isEmpty_eq_false_iff.mpr hn.ne_nil
  have hall : ds.all isDigit = true := List.all_eq_true.mpr hn.all
  simp only [parseLength, htrim, hne, hall, hn.natOf_eq, Bool.not_true, Bool.false_eq_true,
    if_false]

theorem digits_of_parseLength {v : List Char} {n : Nat} (h : parseLength v = some n) :
    Numeral (trim v) n ∧ n ≤ countCap := by
  unfold parseLength at h
  simp only [Bool.not_eq_eq_eq_not, Bool.not_true] at h
  split_ifs at h with hempty hdigits hfits
  · cases h
    have hne : trim v ≠ [] := by simpa using hempty
    have hall : ∀ c ∈ trim v, isDigit c = true := by simpa using hdigits
    exact ⟨numeral_natOf hne hall, hfits⟩

theorem parseLength_eq_some_iff (v : List Char) (n : Nat) :
    parseLength v = some n ↔ States v n := by
  constructor
  · intro h
    obtain ⟨hn, hfits⟩ := digits_of_parseLength h
    obtain ⟨before, after, hv, hb, ha⟩ := trim_spec v
    rw [hv]
    exact .intro before (trim v) after n ((blanks_iff _).mpr hb) ((blanks_iff _).mpr ha) hn
      (by rw [countCap] at hfits; omega)
  · rintro ⟨before, ds, after, n, hb, ha, hn, fits⟩
    rw [parseLength_padded hb ha hn, if_pos (by rw [countCap]; omega)]

/-! ## what is refused -/

theorem isBlank_of_mem_blanks {cs : List Char} {c : Char} (h : Blanks cs) (hc : c ∈ cs) :
    isBlank c = true := (blanks_iff cs).mp h c hc

theorem not_digit_of_blanks {cs : List Char} {c : Char} (h : Blanks cs) (hc : c ∈ cs) :
    ¬ ('0' ≤ c ∧ c ≤ '9') := by
  intro hd
  have hblank := isBlank_of_mem_blanks h hc
  rw [isBlank_of_isDigit ((isDigit_iff c).mpr hd)] at hblank
  cases hblank

/-- a character that does not occur in the middle of a text stands before it or after it -/
theorem outside_of_not_mem {before ds after x y : List Char} {w : Char}
    (h : before ++ ds ++ after = x ++ w :: y) (hw : w ∉ ds) : x <+: before ∨ y <:+ after := by
  rw [List.append_assoc, List.append_eq_append_iff] at h
  rcases h with ⟨t, -, h⟩ | ⟨t, hbefore, -⟩
  · rw [List.append_eq_append_iff] at h
    rcases h with ⟨u, -, hafter⟩ | ⟨u, hds, hrest⟩
    · exact .inr ⟨u ++ [w], by rw [hafter, List.append_assoc, List.singleton_append]⟩
    · cases u with
      | nil => exact .inr ⟨[w], by rw [List.singleton_append, hrest, List.nil_append]⟩
      | cons c u =>
        obtain ⟨rfl, -⟩ := List.cons.inj hrest
        exact absurd (by rw [hds]; exact List.mem_append_right t List.mem_cons_self) hw
  · exact .inl ⟨t, hbefore.symm⟩

theorem not_malformed_of_states {v : List Char} {n : Nat} (h : States v n) : ¬ Malformed v := by
  obtain ⟨before, ds, after, n, hb, ha, hn, fits⟩ := h
  intro hm
  generalize hv : before ++ ds ++ after = v at hm
  cases hm with
  | blank v hblank =>
    obtain ⟨d, hd⟩ := List.exists_mem_of_ne_nil ds hn.ne_nil
    have hmem : d ∈ v := by simp [← hv, hd]
    exact not_digit_of_blanks hblank hmem (hn.digits d hd)
  | stray v c hc hcb hcd =>
    rw [← hv] at hc
    simp only [List.mem_append] at hc
    rcases hc with (hc | hc) | hc
    · exact hcb (hb c hc)
    · exact hcd (hn.digits c hc)
    · exact hcb (ha c hc)
  | parted x y w d e hw hd hdd he hed =>
    -- the blank stands outside the numeral, so one of the digits stands among blanks
    have hblank : Blanks [w] := by simpa [Blanks] using hw
    have hout : w ∉ ds := fun hmem =>
      not_digit_of_blanks hblank List.mem_cons_self (hn.digits w hmem)
    rcases outside_of_not_mem hv hout with hx | hy
    · exact not_digit_of_blanks hb (hx.subset hd) hdd
    · exact not_digit_of_blanks ha (hy.subset he) hed
  | huge before' ds' after' n' hb' ha' hn' large =>
    have hread := parseLength_padded hb ha hn
    have hread' := parseLength_padded hb' ha' hn'
    rw [← hv, hread, if_pos (by rw [countCap]; omega),
      if_neg (by rw [countCap]; omega)] at hread'
    cases hread'

/-- a character that is no digit, between the blanks at the ends, makes a text malformed -/
theorem malformed_of_mem_trim {v : List Char} {w : Char} (hw : w ∈ trim v)
    (hwd : isDigit w = false) : Malformed v := by
  obtain ⟨before, after, hv, -, -⟩ := trim_spec v
  have hstray : ∀ c ∈ trim v, isBlank c = false → isDigit c = false → Malformed v := by
    intro c hc hcb hcd
    have hmem : c ∈ v := by rw [hv]; simp [hc]
    refine .stray v c hmem ?_ ?_
    · rw [← isBlank_iff, hcb]
      exact Bool.false_ne_true
    · rw [← isDigit_iff, hcd]
      exact Bool.false_ne_true
  cases hwb : isBlank w with
  | false => exact hstray w hw hwb hwd
  | true =>
    -- a blank has a character on either side that is none
    obtain ⟨l, r, hlr⟩ := List.append_of_mem hw
    rcases l with _ | ⟨d, l⟩
    · have hfirst := isBlank_first hlr
      rw [hwb] at hfirst
      cases hfirst
    rcases List.eq_nil_or_concat r with rfl | ⟨r, e, rfl⟩
    · have hlast := isBlank_last hlr
      rw [hwb] at hlast
      cases hlast
    have hdb := isBlank_first hlr
    have heb : isBlank e = false :=
      isBlank_last (r := d :: l ++ w :: r) (by rw [hlr, List.concat_eq_append]; simp)
    cases hdd : isDigit d with
    | false => exact hstray d (by rw [hlr]; simp) hdb hdd
    | true =>
      cases hed : isDigit e with
      | false => exact hstray e (by rw [hlr]; simp) heb hed
      | true =>
        have hsplit : v = (before ++ d :: l) ++ w :: (r ++ [e] ++ after) := by
          rw [hv, hlr]
          simp
        rw [hsplit]
        exact .parted _ _ w d e ((isBlank_iff w).mp hwb) (by simp) ((isDigit_iff d).mp hdd)
          (by simp) ((isDigit_iff e).mp hed)

theorem malformed_of_none {v : List Char} (h : parseLength v = none) : Malformed v := by
  obtain ⟨before, after, hv, hb, ha⟩ := trim_spec v
  rw [← blanks_iff] at hb ha
  by_cases hne : trim v = []
  · rw [hv, hne, List.append_nil]
    refine .blank _ fun c hc => ?_
    rcases List.mem_append.mp hc with hc | hc
    · exact hb c hc
    · exact ha c hc
  by_cases hall : ∀ c ∈ trim v, isDigit c = true
  · -- only its size can be wrong
    have hn := numeral_natOf hne hall
    have hread := parseLength_padded hb ha hn
    rw [← hv, h] at hread
    have hlarge : ¬ natOf (trim v) ≤ countCap := fun hle => by rw [if_pos hle] at hread; cases hread
    rw [hv]
    exact .huge before (trim v) after _ hb ha hn (by rw [countCap] at hlarge; omega)
  · simp only [not_forall] at hall
    obtain ⟨w, hw, hwd⟩ := hall
    exact malformed_of_mem_trim hw (Bool.eq_false_iff.mpr hwd)

theorem parseLength_eq_none_iff (v : List Char) : parseLength v = none ↔ Malformed v := by
  refine ⟨malformed_of_none, fun hm => ?_⟩
  cases hread : parseLength v with
  | none => rfl
  | some n => exact absurd hm (not_malformed_of_states ((parseLength_eq_some_iff v n).mp hread))

/-- **The grammar of a length.**  A text is read as `n` if and only if it is a numeral with blanks
around it whose value is `n` and fits a 64-bit word.  Every other text is refused: a text without a
digit, with any other character, with a blank between digits, or with too large a value.  So the
plain text of a number that fits is read as that number, behind any zeros and between any blanks. -/
theorem length_grammar :
    (∀ v n, parseLength v = some n ↔ States v n) ∧
    (∀ v, parseLength v = none ↔ Malformed v) ∧
    ∀ n < 2 ^ 64, ∀ before after k, Blanks before → Blanks after →
      parseLength (before ++ (List.replicate k '0' ++ natDigits n) ++ after) = some n := by
  refine ⟨parseLength_eq_some_iff, parseLength_eq_none_iff, ?_⟩
  intro n hn before after k hb ha
  rw [parseLength_padded hb ha (numeral_zeros k n), if_pos (by rw [countCap]; omega)]

/-- the largest length and the smallest number that is none -/
example : parseLength "\u2003 018446744073709551615\t".toList = some 18446744073709551615 ∧
    parseLength "18446744073709551616".toList = none := by decide +kernel

end Refetch.Http

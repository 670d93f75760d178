import Refetch.Json.Value
import Refetch.Proofs.Text.Decimal
/-!
# Plain JSON text, read back

What the readers make of text in its plainest form, whatever follows it:

* `isPlain`               a character that stands for itself in a string;
* `Json.EndsNumber`       the text that follows cannot go on a number;
* `readNumber_natDigits`  the plain digits of a number that fits a word;
* `readNatural_natDigits`, `readOptionalNatural_natDigits`   such a number within a bound.
-/

namespace Refetch.Json

open Text

theorem skipBlank_cons {c : Char} (cs : List Char) (h : isBlank c = false) :
    skipBlank (c :: cs) = c :: cs :=
  List.dropWhile_cons_of_neg (by rw [h]; exact Bool.false_ne_true)

/-! ## strings -/

/-- a character that stands for itself in a string -/
def isPlain (c : Char) : Bool := c != '\x22' && c != '\x5c' && !isControl c

/-! ## numbers -/

/-- the text cannot go on a number -/
def EndsNumber (cs : List Char) : Prop :=
  ∀ c ∈ cs.head?, isDigit c = false ∧ c ≠ '.' ∧ c ≠ 'e' ∧ c ≠ 'E'

theorem EndsNumber.cons {c : Char} (cs : List Char)
    (h : isDigit c = false ∧ c ≠ '.' ∧ c ≠ 'e' ∧ c ≠ 'E') : EndsNumber (c :: cs) := by
  rintro _ ⟨rfl⟩
  exact h

theorem EndsNumber.head?_any {cs : List Char} (h : EndsNumber cs) : cs.head?.any isDigit = false := by
  cases cs with
  | nil => rfl
  | cons c cs => exact (h c rfl).1

theorem leadingDigits_eq {digits : Nat} {ds : List Char} (h : natFrom digits ds ≤ wordMax) :
    leadingDigits digits ds = (natFrom digits ds, 0) := by
  induction ds generalizing digits with
  | nil => rfl
  | cons c ds ih =>
    rw [natFrom_cons] at h ⊢
    have hle := le_natFrom (10 * digits + digitValue c) ds
    rw [leadingDigits, if_pos (hle.trans h), ih h]

theorem readNumberTail_eq {ds rest : List Char} (hfits : natOf ds ≤ wordMax)
    (hrest : EndsNumber rest) : readNumberTail ds rest = .ok (some (natOf ds), rest) := by
  have hlead : leadingDigits 0 ds = (natOf ds, 0) := leadingDigits_eq hfits
  unfold readNumberTail
  rw [hlead]
  cases rest with
  | nil => rfl
  | cons c rest =>
    obtain ⟨-, hpoint, he, hE⟩ := hrest c rfl
    split
    · next h => exact absurd (List.cons.inj h).1 hpoint
    · next h => exact absurd (List.cons.inj h).1 he
    · next h => exact absurd (List.cons.inj h).1 hE
    · rfl

theorem takeWhile_digits {ds rest : List Char} (hd : ∀ c ∈ ds, isDigit c = true)
    (hrest : EndsNumber rest) : (ds ++ rest).takeWhile isDigit = ds := by
  rw [List.takeWhile_append_of_pos hd]
  cases rest with
  | nil => exact List.append_nil ds
  | cons c rest =>
    have hc := (hrest c rfl).1
    rw [List.takeWhile_cons_of_neg (by rw [hc]; exact Bool.false_ne_true), List.append_nil]

theorem dropWhile_digits {ds rest : List Char} (hd : ∀ c ∈ ds, isDigit c = true)
    (hrest : rest.head?.any isDigit = false) : (ds ++ rest).dropWhile isDigit = rest := by
  rw [List.dropWhile_append_of_pos hd]
  cases rest with
  | nil => rfl
  | cons c rest =>
    have hc : isDigit c = false := hrest
    rw [List.dropWhile_cons_of_neg (by rw [hc]; exact Bool.false_ne_true)]

theorem readNumber_natDigits {n : Nat} {rest : List Char} (hn : n ≤ wordMax)
    (hrest : EndsNumber rest) : readNumber (natDigits n ++ rest) = .ok (some n, rest) := by
  have hd : ∀ c ∈ natDigits n, isDigit c = true := fun c hc => isDigit_of_mem_natDigits hc
  have hvalue := natOf_natDigits n
  have htake := takeWhile_digits hd hrest
  have hdrop := dropWhile_digits hd hrest.head?_any
  rcases Nat.eq_zero_or_pos n with rfl | hpos
  · show (if rest.head?.any isDigit then _ else readNumberTail ['0'] rest) = _
    rw [hrest.head?_any, if_neg Bool.false_ne_true]
    exact readNumberTail_eq hn hrest
  · obtain ⟨c, cs, hcs⟩ := List.exists_cons_of_ne_nil (natDigits_ne_nil n)
    have hzero := head_natDigits_ne_zero hpos hcs
    have hc : isDigit c = true := hd c (by rw [hcs]; exact List.mem_cons_self)
    rw [hcs, List.cons_append] at htake hdrop ⊢
    rw [readNumber, hc, Bool.not_true, if_neg Bool.false_ne_true, if_neg hzero, htake, hdrop, ← hcs]
    rw [readNumberTail_eq (by rw [hvalue]; exact hn) hrest, hvalue]

/-! ## numbers within a bound -/

theorem ne_of_isDigit {c d : Char} (hc : isDigit c = true) (hd : isDigit d = false) : c ≠ d := by
  rintro rfl
  rw [hc] at hd
  cases hd

theorem isBlank_of_isDigit {c : Char} (h : isDigit c = true) : isBlank c = false := by
  have hne : ∀ d : Char, isDigit d = false → (c == d) = false := fun d hd =>
    beq_false_of_ne (ne_of_isDigit h hd)
  rw [isBlank, hne ' ' rfl, hne '\t' rfl, hne '\n' rfl, hne '\r' rfl]
  rfl

theorem natDigits_cons (n : Nat) : ∃ c cs, natDigits n = c :: cs ∧ isDigit c = true := by
  obtain ⟨c, cs, hcs⟩ := List.exists_cons_of_ne_nil (natDigits_ne_nil n)
  exact ⟨c, cs, hcs, isDigit_of_mem_natDigits (by rw [hcs]; exact List.mem_cons_self)⟩

theorem readNatural_natDigits {n most : Nat} {rest : List Char} (hn : n ≤ most)
    (hmost : most ≤ wordMax) (hrest : EndsNumber rest) :
    readNatural most (natDigits n ++ rest) = .ok (n, rest) := by
  have hread := readNumber_natDigits (hn.trans hmost) hrest
  obtain ⟨c, cs, hcs, hc⟩ := natDigits_cons n
  rw [hcs, List.cons_append] at hread ⊢
  unfold readNatural
  rw [skipBlank_cons _ (isBlank_of_isDigit hc)]
  simp only [hc, if_true, hread, hn]

theorem readOptionalNatural_natDigits {n most : Nat} {rest : List Char} (hn : n ≤ most)
    (hmost : most ≤ wordMax) (hrest : EndsNumber rest) :
    readOptionalNatural most (natDigits n ++ rest) = .ok (some n, rest) := by
  have hread := readNatural_natDigits hn hmost hrest
  obtain ⟨c, cs, hcs, hc⟩ := natDigits_cons n
  rw [hcs, List.cons_append] at hread ⊢
  unfold readOptionalNatural
  rw [skipBlank_cons _ (isBlank_of_isDigit hc)]
  split
  · next h =>
    obtain ⟨rfl, -⟩ := List.cons.inj h
    cases hc
  · rw [hread]
    rfl

end Refetch.Json

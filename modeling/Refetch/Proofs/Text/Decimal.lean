import Mathlib.Data.Nat.Digits.Defs
import Mathlib.Data.List.Induction
import Refetch.Text.Numeral
/-!
# Numerals and their numbers

* `natOf_eq_ofDigits`   a list of digits denotes its positional value to the base ten;
* `natOf_natDigits`     the plain text of a number denotes it;
* `natOf_zeros`         leading zeros change nothing;
* `le_natFrom`          a longer numeral denotes no smaller number;
* `isDigit_of_mem_natDigits`, `head_natDigits_ne_zero`   plain text consists of digits, and starts
                        with a zero only for zero.
-/

namespace Refetch.Text

theorem isDigit_iff (c : Char) : isDigit c = true ↔ '0' ≤ c ∧ c ≤ '9' := by
  simp only [isDigit, Bool.and_eq_true, decide_eq_true_eq, Char.le_def, UInt32.le_iff_toNat_le]
  rfl

theorem natFrom_eq_ofDigitChars (n : Nat) (cs : List Char) :
    natFrom n cs = Nat.ofDigitChars 10 cs n := rfl

/-- the value to the base ten: the digit at the end counts once -/
theorem natOf_eq_ofDigits (cs : List Char) :
    natOf cs = Nat.ofDigits 10 (cs.map digitValue).reverse := by
  induction cs using List.reverseRecOn with
  | nil => rfl
  | append_singleton cs c ih =>
    have hstep : natOf (cs ++ [c]) = 10 * natOf cs + digitValue c := natFrom_append 0 cs [c]
    rw [hstep, ih, List.map_append, List.reverse_append]
    show _ = Nat.ofDigits 10 (digitValue c :: (cs.map digitValue).reverse)
    rw [Nat.ofDigits_cons]
    omega

theorem natOf_natDigits (n : Nat) : natOf (natDigits n) = n := Nat.ofDigitChars_ten_toDigits

theorem natOf_zeros (k : Nat) (cs : List Char) : natOf (List.replicate k '0' ++ cs) = natOf cs := by
  have hz : natFrom 0 (List.replicate k '0') = 0 := by
    rw [natFrom_eq_ofDigitChars, Nat.ofDigitChars_replicate_zero, Nat.mul_zero]
  rw [natOf, natFrom_append, hz, natOf]

theorem le_natFrom (n : Nat) (cs : List Char) : n ≤ natFrom n cs := by
  induction cs generalizing n with
  | nil => exact Nat.le_refl n
  | cons c cs ih =>
    have h := ih (10 * n + digitValue c)
    rw [natFrom_cons]
    omega

/-! ## plain text -/

theorem natDigits_ne_nil (n : Nat) : natDigits n ≠ [] := Nat.toDigits_ne_nil

theorem isDigit_of_mem_natDigits {n : Nat} {c : Char} (h : c ∈ natDigits n) :
    isDigit c = true := by
  have hc := Nat.isDigit_of_mem_toDigits (by decide) (by decide) h
  rw [isDigit_iff]
  simpa [Char.isDigit, Char.le_def] using hc

/-- the first digit of a number that is not zero is not zero -/
theorem head_natDigits_ne_zero {n : Nat} (hn : 0 < n) {c : Char} {cs : List Char}
    (h : natDigits n = c :: cs) : c ≠ '0' := by
  induction n using Nat.strong_induction_on generalizing c cs with
  | _ n ih =>
    rw [natDigits, Nat.toDigits_eq_if (by decide)] at h
    split at h
    · next hlt =>
      obtain ⟨rfl, -⟩ := List.cons.inj h
      intro hz
      have hv := Nat.toNat_digitChar_of_lt_ten hlt
      rw [hz] at hv
      have h0 : ('0' : Char).toNat = 48 := rfl
      omega
    · next hge =>
      -- the first digit is that of a tenth of the number
      obtain ⟨d, ds, hd⟩ := List.exists_cons_of_ne_nil (natDigits_ne_nil (n / 10))
      rw [← natDigits, hd, List.cons_append] at h
      obtain ⟨rfl, -⟩ := List.cons.inj h
      exact ih (n / 10) (by omega) (by omega) hd

end Refetch.Text

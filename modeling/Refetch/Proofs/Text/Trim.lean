import Mathlib.Data.List.DropRight
import Refetch.Text.Split
/-!
# Blanks around a text

* `whiteSpace`, `isBlank_iff`   the blanks, code point by code point;
* `trim_spec`        trimming takes off blanks, at the two ends;
* `isBlank_first`, `isBlank_last`   what is left neither starts nor ends with one;
* `trim_solid`       a text without blanks is what is left of it between any blanks.
-/

namespace Refetch.Text

/-- the code points with the Unicode property White_Space -/
def whiteSpace : List Nat :=
  [0x9, 0xA, 0xB, 0xC, 0xD, 0x20, 0x85, 0xA0, 0x1680, 0x2000, 0x2001, 0x2002, 0x2003, 0x2004,
    0x2005, 0x2006, 0x2007, 0x2008, 0x2009, 0x200A, 0x2028, 0x2029, 0x202F, 0x205F, 0x3000]

theorem isBlank_iff (c : Char) : isBlank c = true ↔ c.toNat ∈ whiteSpace := by
  simp only [isBlank, whiteSpace, Bool.or_eq_true, Bool.and_eq_true, decide_eq_true_eq,
    beq_iff_eq, List.mem_cons, List.not_mem_nil, or_false]
  omega

theorem trimEnd_eq (cs : List Char) : trimEnd cs = cs.rdropWhile isBlank := rfl

theorem trim_spec (cs : List Char) : ∃ before after, cs = before ++ trim cs ++ after ∧
    (∀ c ∈ before, isBlank c = true) ∧ ∀ c ∈ after, isBlank c = true := by
  refine ⟨cs.takeWhile isBlank, (cs.dropWhile isBlank).rtakeWhile isBlank, ?_, ?_, ?_⟩
  · rw [trim, trimEnd_eq, List.append_assoc, List.rdropWhile_append_rtakeWhile,
      List.takeWhile_append_dropWhile]
  · exact fun c hc => List.mem_takeWhile_imp hc
  · exact fun c hc => List.mem_rtakeWhile_imp hc

theorem isBlank_last {cs r : List Char} {c : Char} (h : trim cs = r ++ [c]) :
    isBlank c = false := by
  have hr : (cs.dropWhile isBlank).rdropWhile isBlank = r ++ [c] := h
  have hlast := List.rdropWhile_last_not isBlank (cs.dropWhile isBlank) (by simp [hr])
  simp only [hr, List.getLast_concat] at hlast
  exact Bool.eq_false_iff.mpr hlast

theorem isBlank_first {cs r : List Char} {c : Char} (h : trim cs = c :: r) :
    isBlank c = false := by
  -- what is left is a prefix of the text from its first character on that is no blank
  obtain ⟨t, ht⟩ := List.rdropWhile_prefix isBlank (cs.dropWhile isBlank)
  rw [← trimEnd_eq, ← trim, h] at ht
  have hhead := List.head?_dropWhile_not isBlank cs
  rw [← ht] at hhead
  exact hhead

theorem dropWhile_solid {ds : List Char} (rest : List Char) (h : ∀ c ∈ ds, isBlank c = false)
    (hne : ds ≠ []) : (ds ++ rest).dropWhile isBlank = ds ++ rest := by
  obtain ⟨d, ds, rfl⟩ := List.exists_cons_of_ne_nil hne
  have hd := h d List.mem_cons_self
  exact List.dropWhile_cons_of_neg (by rw [hd]; exact Bool.false_ne_true)

theorem trimEnd_blank {after : List Char} (ds : List Char) (h : ∀ c ∈ after, isBlank c = true) :
    trimEnd (ds ++ after) = trimEnd ds := by
  have hr : ∀ c ∈ after.reverse, isBlank c = true := fun c hc => h c (List.mem_reverse.mp hc)
  rw [trimEnd, List.reverse_append, List.dropWhile_append_of_pos hr, ← trimEnd]

theorem trim_solid {before ds after : List Char} (hb : ∀ c ∈ before, isBlank c = true)
    (ha : ∀ c ∈ after, isBlank c = true) (hd : ∀ c ∈ ds, isBlank c = false) :
    trim (before ++ ds ++ after) = ds := by
  rw [trim, List.append_assoc, List.dropWhile_append_of_pos hb]
  by_cases hne : ds = []
  · rw [hne, List.nil_append, List.dropWhile_eq_nil_iff.mpr ha]
    rfl
  · have hr : ∀ c ∈ ds.reverse, isBlank c = false := fun c hc => hd c (List.mem_reverse.mp hc)
    have hne' : ds.reverse ≠ [] := by rwa [ne_eq, List.reverse_eq_nil_iff]
    have hend := dropWhile_solid [] hr hne'
    rw [dropWhile_solid after hd hne, trimEnd_blank ds ha, trimEnd]
    rw [List.append_nil] at hend
    rw [hend, List.reverse_reverse]

end Refetch.Text

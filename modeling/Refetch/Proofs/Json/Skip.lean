import Refetch.Proofs.Json.Grammar
/-!
# Values passed over

* `skipNumber_text`    a number of any size, up to text that cannot go on a number;
* `Value.skip`, `Elements.skip`, `Members.skip`   a value of any depth is passed over as a whole,
                       and so is the inside of a list or an object up to its end;
* `skipValue_gap`      the same with the fuel that the reader takes, blanks before it.

The induction is on the grammar.  It needs twice as much fuel as there are characters, since a list
or an object is entered in two steps and has a bracket at each end.
-/

namespace Refetch.Json

open Text

/-! ## numbers -/

theorem skipDigits_text {ds rest : List Char} (hd : Digits ds)
    (hrest : rest.head?.any isDigit = false) : skipDigits (ds ++ rest) = .ok rest := by
  obtain ⟨c, cs, rfl⟩ := List.exists_cons_of_ne_nil hd.ne_nil
  have hc := hd.digits c List.mem_cons_self
  have hdrop := dropWhile_digits (fun d h => hd.digits d (List.mem_cons_of_mem _ h)) hrest
  rw [List.cons_append, skipDigits, if_pos hc, hdrop]

theorem skipExponent_text {sign ds rest : List Char} (hs : sign ∈ [[], ['+'], ['-']])
    (hd : Digits ds) (hrest : rest.head?.any isDigit = false) :
    skipExponent (sign ++ ds ++ rest) = .ok rest := by
  have hskip := skipDigits_text hd hrest
  simp only [List.mem_cons, List.not_mem_nil, or_false] at hs
  obtain rfl | rfl | rfl := hs
  · -- without a sign the first digit has to be told from one
    obtain ⟨c, cs, rfl⟩ := List.exists_cons_of_ne_nil hd.ne_nil
    have hc := hd.digits c List.mem_cons_self
    rw [List.nil_append, List.cons_append] at *
    unfold skipExponent
    split
    · next h => exact absurd (List.cons.inj h).1 (ne_of_isDigit hc rfl)
    · next h => exact absurd (List.cons.inj h).1 (ne_of_isDigit hc rfl)
    · exact hskip
  · exact hskip
  · exact hskip

theorem Exponent.skip {x rest : List Char} (hx : Exponent x) (hrest : EndsNumber rest) :
    skipOptionalExponent (x ++ rest) = .ok rest := by
  cases hx with
  | absent =>
    rw [List.nil_append]
    unfold skipOptionalExponent
    split
    · exact absurd rfl (hrest 'e' rfl).2.2.1
    · exact absurd rfl (hrest 'E' rfl).2.2.2
    · rfl
  | present he hs hd =>
    have hskip := skipExponent_text hs hd hrest.head?_any
    obtain rfl | rfl := he <;> exact hskip

theorem Exponent.head {x rest : List Char} (hx : Exponent x) (hrest : EndsNumber rest) :
    (x ++ rest).head?.any isDigit = false ∧ (x ++ rest).head? ≠ some '.' := by
  cases hx with
  | absent =>
    refine ⟨hrest.head?_any, ?_⟩
    intro h
    exact (hrest '.' h).2.1 rfl
  | present he hs hd => obtain rfl | rfl := he <;> exact ⟨rfl, by simp⟩

theorem Fraction.skip {f x rest : List Char} (hf : Fraction f) (hx : Exponent x)
    (hrest : EndsNumber rest) : skipNumberTail (f ++ (x ++ rest)) = .ok rest := by
  obtain ⟨hdigit, hpoint⟩ := hx.head hrest
  have hskip := hx.skip hrest
  cases hf with
  | absent =>
    rw [List.nil_append]
    unfold skipNumberTail
    split
    · next h => exact absurd (by rw [h]; rfl) hpoint
    · exact hskip
  | present hd =>
    rw [List.cons_append]
    simp only [skipNumberTail, skipDigits_text hd hdigit]
    exact hskip

theorem Fraction.head {f x rest : List Char} (hf : Fraction f) (hx : Exponent x)
    (hrest : EndsNumber rest) : (f ++ (x ++ rest)).head?.any isDigit = false := by
  cases hf with
  | absent => exact (hx.head hrest).1
  | present hd => rfl

theorem skipNumber_text {w f x rest : List Char} (hw : Whole w) (hf : Fraction f)
    (hx : Exponent x) (hrest : EndsNumber rest) :
    skipNumber (w ++ (f ++ (x ++ rest))) = .ok rest := by
  have htail := hf.skip hx hrest
  have hhead := hf.head hx hrest
  cases hw with
  | zero =>
    show (if (f ++ (x ++ rest)).head?.any isDigit then _ else skipNumberTail (f ++ _)) = _
    rw [hhead, if_neg Bool.false_ne_true, htail]
  | @digits c ds hc hz hd =>
    have hdrop := dropWhile_digits hd hhead
    rw [List.cons_append, skipNumber, hc, Bool.not_true, if_neg Bool.false_ne_true, if_neg hz,
      hdrop, htail]

theorem Whole.head {w : List Char} (hw : Whole w) : ∃ c cs, w = c :: cs ∧ isDigit c = true := by
  cases hw with
  | zero => exact ⟨_, _, rfl, rfl⟩
  | digits hc => exact ⟨_, _, rfl, hc⟩

/-! ## how a value begins -/

theorem Value.head {v : List Char} (hv : Value v) :
    ∃ c cs, v = c :: cs ∧ isBlank c = false ∧ c ≠ ']' := by
  cases hv with
  | number hw hf hx =>
    obtain ⟨c, cs, rfl, hc⟩ := hw.head
    exact ⟨c, _, rfl, isBlank_of_isDigit hc, ne_of_isDigit hc rfl⟩
  | _ => exact ⟨_, _, rfl, rfl, by decide⟩

theorem Value.length_pos {v : List Char} (hv : Value v) : 0 < v.length := by
  obtain ⟨c, cs, rfl, -⟩ := hv.head
  exact Nat.zero_lt_succ _

theorem Value.head_gap {v : List Char} (hv : Value v) (g : Gap) (rest : List Char) :
    ∃ c ds, skipBlank (g.chars ++ (v ++ rest)) = c :: ds ∧ c ≠ ']' := by
  obtain ⟨c, ds, rfl, hc, hne⟩ := hv.head
  exact ⟨c, ds ++ rest, skipBlank_gap_cons g (ds ++ rest) hc, hne⟩

theorem Elements.head {cs : List Char} (h : Elements cs) (rest : List Char) :
    ∃ c ds, skipBlank (cs ++ rest) = c :: ds ∧ c ≠ ']' := by
  cases h with
  | last g h hv =>
    rw [List.append_assoc, List.append_assoc]
    exact hv.head_gap g _
  | more g h hv hcs =>
    rw [List.append_assoc, List.append_assoc]
    exact hv.head_gap g _

theorem Members.head {cs : List Char} (h : Members cs) (rest : List Char) :
    ∃ ds, skipBlank (cs ++ rest) = '\x22' :: ds := by
  cases h with
  | last g h i j hname hv =>
    exact ⟨_, by rw [memberText, List.append_assoc, List.cons_append, skipBlank_gap_cons _ _ rfl]⟩
  | more g h i j hname hv hcs =>
    exact ⟨_, by rw [memberText, List.append_assoc, List.append_assoc, List.cons_append,
      skipBlank_gap_cons _ _ rfl]⟩

/-! ## one step of each reader -/

theorem skipValueWith_skipBlank (n : Nat) (cs : List Char) :
    skipValueWith n (skipBlank cs) = skipValueWith n cs := by
  cases n with
  | zero => rfl
  | succ n => rw [skipValueWith, skipValueWith, skipBlank_skipBlank]

theorem skipElementsWith_skipBlank (n : Nat) (cs : List Char) :
    skipElementsWith n (skipBlank cs) = skipElementsWith n cs := by
  cases n with
  | zero => rfl
  | succ n => rw [skipElementsWith, skipElementsWith, skipValueWith_skipBlank]

theorem skipMembersWith_skipBlank (n : Nat) (cs : List Char) :
    skipMembersWith n (skipBlank cs) = skipMembersWith n cs := by
  cases n with
  | zero => rfl
  | succ n => rw [skipMembersWith, skipMembersWith, skipBlank_skipBlank]

theorem skipValueWith_gap (n : Nat) (g : Gap) (cs : List Char) :
    skipValueWith n (g.chars ++ cs) = skipValueWith n cs := by
  rw [← skipValueWith_skipBlank, skipBlank_gap, skipValueWith_skipBlank]

theorem skipValueWith_digit (n : Nat) {c : Char} (cs : List Char) (hc : isDigit c = true) :
    skipValueWith (n + 1) (c :: cs) = skipNumber (c :: cs) := by
  rw [skipValueWith, skipBlank_cons cs (isBlank_of_isDigit hc)]
  -- none of the characters that open another kind of value is a digit
  split
  · next h => cases h
  all_goals first
    | (next h => exact absurd (List.cons.inj h).1 (ne_of_isDigit hc rfl))
    | (next h => obtain ⟨rfl, rfl⟩ := List.cons.inj h; exact if_pos hc)

theorem skipValueWith_list (n : Nat) {r ds : List Char} {c : Char} (h : skipBlank r = c :: ds)
    (hc : c ≠ ']') : skipValueWith (n + 1) ('[' :: r) = skipElementsWith n r := by
  rw [skipValueWith, skipBlank_cons r rfl, ← skipElementsWith_skipBlank n r]
  simp only [h]
  split
  · next h' => cases h'
  · next h' => exact absurd (List.cons.inj h').1 hc
  · rfl

theorem skipValueWith_object (n : Nat) {r ds : List Char} (h : skipBlank r = '\x22' :: ds) :
    skipValueWith (n + 1) ('\x7b' :: r) = skipMembersWith n r := by
  rw [skipValueWith, skipBlank_cons r rfl, ← skipMembersWith_skipBlank n r]
  simp only [h]
  rfl

section
variable {n : Nat} {v rest : List Char} (g h : Gap)

theorem skipElementsWith_comma
    (hv : skipValueWith n (v ++ (h.chars ++ ',' :: rest)) = .ok (h.chars ++ ',' :: rest)) :
    skipElementsWith (n + 1) (g.chars ++ (v ++ (h.chars ++ ',' :: rest))) =
      skipElementsWith n rest := by
  rw [skipElementsWith, skipValueWith_gap, hv]
  simp only [skipBlank_gap_cons (c := ',') h rest rfl]

theorem skipElementsWith_end
    (hv : skipValueWith n (v ++ (h.chars ++ ']' :: rest)) = .ok (h.chars ++ ']' :: rest)) :
    skipElementsWith (n + 1) (g.chars ++ (v ++ (h.chars ++ ']' :: rest))) = .ok rest := by
  rw [skipElementsWith, skipValueWith_gap, hv]
  simp only [skipBlank_gap_cons (c := ']') h rest rfl]

variable {name : List Char} (hname : Body name) (i j : Gap)
include hname

theorem skipMembersWith_comma
    (hv : skipValueWith n (v ++ (j.chars ++ ',' :: rest)) = .ok (j.chars ++ ',' :: rest)) :
    skipMembersWith (n + 1) (memberText g name h i v j ++ ',' :: rest) =
      skipMembersWith n rest := by
  simp only [memberText, List.append_assoc, List.cons_append]
  rw [skipMembersWith, skipBlank_gap_cons g _ rfl]
  simp only [hname.skip, skipBlank_gap_cons (c := ':') h _ rfl,
    skipValueWith_gap, hv, skipBlank_gap_cons (c := ',') j rest rfl]

theorem skipMembersWith_end
    (hv : skipValueWith n (v ++ (j.chars ++ '\x7d' :: rest)) = .ok (j.chars ++ '\x7d' :: rest)) :
    skipMembersWith (n + 1) (memberText g name h i v j ++ '\x7d' :: rest) = .ok rest := by
  simp only [memberText, List.append_assoc, List.cons_append]
  rw [skipMembersWith, skipBlank_gap_cons g _ rfl]
  simp only [hname.skip, skipBlank_gap_cons (c := ':') h _ rfl,
    skipValueWith_gap, hv, skipBlank_gap_cons (c := '\x7d') j rest rfl]

end

/-! ## values of any depth -/

theorem length_memberText (g h i j : Gap) (name v : List Char) :
    v.length < (memberText g name h i v j).length := by
  simp only [memberText, List.length_append, List.length_cons]
  omega

theorem endsNumber_gap_cons (g : Gap) {c : Char} (rest : List Char)
    (hc : c = ',' ∨ c = ']' ∨ c = '\x7d') : EndsNumber (g.chars ++ c :: rest) := by
  apply EndsNumber.gap
  apply EndsNumber.cons
  obtain rfl | rfl | rfl := hc <;> decide

mutual

theorem Value.skip {v : List Char} (hv : Value v) {rest : List Char} (hrest : EndsNumber rest)
    {n : Nat} (hn : 2 * v.length ≤ n) : skipValueWith n (v ++ rest) = .ok rest := by
  have hpos := hv.length_pos
  obtain ⟨n, rfl⟩ := Nat.exists_eq_add_one.mpr (show 0 < n by omega)
  cases hv with
  | null => rfl
  | yes => rfl
  | no => rfl
  | number hw hf hx =>
    have hskip := skipNumber_text hw hf hx hrest
    obtain ⟨c, cs, rfl, hc⟩ := hw.head
    rw [List.append_assoc, List.append_assoc, List.cons_append] at *
    rw [skipValueWith_digit n _ hc, hskip]
  | negative hw hf hx =>
    have hskip := skipNumber_text hw hf hx hrest
    rw [List.cons_append, List.append_assoc, List.append_assoc, skipValueWith, skipBlank_cons _ rfl]
    exact hskip
  | string h =>
    rw [List.cons_append, List.append_assoc, skipValueWith, skipBlank_cons _ rfl]
    exact h.skip rest
  | emptyList g =>
    rw [List.cons_append, List.append_assoc, skipValueWith, skipBlank_cons _ rfl]
    simp only [List.singleton_append, skipBlank_gap_cons (c := ']') g rest rfl]
  | @list cs h =>
    obtain ⟨c, ds, hhead, hc⟩ := h.head (']' :: rest)
    rw [List.cons_append, List.append_assoc, List.singleton_append, skipValueWith_list n hhead hc]
    exact h.skip (by simp only [List.length_cons, List.length_append] at hn; omega)
  | emptyObject g =>
    rw [List.cons_append, List.append_assoc, skipValueWith, skipBlank_cons _ rfl]
    simp only [List.singleton_append,
      skipBlank_gap_cons (c := '\x7d') g rest rfl]
  | @object cs h =>
    obtain ⟨ds, hhead⟩ := h.head ('\x7d' :: rest)
    rw [List.cons_append, List.append_assoc, List.singleton_append, skipValueWith_object n hhead]
    exact h.skip (by simp only [List.length_cons, List.length_append] at hn; omega)

theorem Elements.skip {cs : List Char} (h : Elements cs) {rest : List Char} {n : Nat}
    (hn : 2 * cs.length < n) : skipElementsWith n (cs ++ ']' :: rest) = .ok rest := by
  obtain ⟨n, rfl⟩ := Nat.exists_eq_add_one.mpr (show 0 < n by omega)
  cases h with
  | @last v g h hv =>
    simp only [List.length_append] at hn
    rw [List.append_assoc, List.append_assoc]
    exact skipElementsWith_end g h (hv.skip (endsNumber_gap_cons h rest (by simp)) (by omega))
  | @more v cs g h hv hcs =>
    simp only [List.length_append, List.length_cons] at hn
    rw [List.append_assoc, List.append_assoc, List.append_assoc, List.cons_append,
      skipElementsWith_comma g h (hv.skip (endsNumber_gap_cons h _ (by simp)) (by omega))]
    exact hcs.skip (by omega)

theorem Members.skip {cs : List Char} (h : Members cs) {rest : List Char} {n : Nat}
    (hn : 2 * cs.length < n) : skipMembersWith n (cs ++ '\x7d' :: rest) = .ok rest := by
  obtain ⟨n, rfl⟩ := Nat.exists_eq_add_one.mpr (show 0 < n by omega)
  cases h with
  | @last name v g h i j hname hv =>
    have hlen := length_memberText g h i j name v
    exact skipMembersWith_end g h hname i j
      (hv.skip (endsNumber_gap_cons j rest (by simp)) (by omega))
  | @more name v cs g h i j hname hv hcs =>
    have hlen := length_memberText g h i j name v
    simp only [List.length_append, List.length_cons] at hn
    rw [List.append_assoc, List.cons_append, skipMembersWith_comma g h hname i j
      (hv.skip (endsNumber_gap_cons j _ (by simp)) (by omega))]
    exact hcs.skip (by omega)

end

/-- a value is passed over as a whole, whatever its depth, with the blanks before it -/
theorem skipValue_gap (g : Gap) {v rest : List Char} (hv : Value v) (hrest : EndsNumber rest) :
    skipValue (g.chars ++ (v ++ rest)) = .ok rest := by
  rw [skipValue, skipValueWith_gap]
  exact hv.skip hrest (by simp only [List.length_append]; omega)

end Refetch.Json

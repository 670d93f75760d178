import Refetch.Proofs.Driver.Reference
/-!
# What is seen of a run

* `Seen`            the items, calls and overflows in a stretch of notes that takes up no attempt;
* `passage_ended`   what is seen of the attempt that the output ends in;
* `passage_followed`  what is seen of an attempt that is followed by another one;
* `Story.seen`      what is seen of a whole run.
-/

namespace Refetch

open Session

/-- the items, the number of calls and the overflow that the log took, in notes that take up no
attempt -/
structure Seen (notes : List Note) (items : List Item) (calls : Nat) (taken : Bool) : Prop where
  items : notes.filterMap itemOf = items
  attempts : notes.filterMap attemptOf = []
  calls : notes.countP isCall = calls
  taken : notes.any isOverflowTaken = taken

namespace Seen

theorem nil : Seen [] [] 0 false := ⟨rfl, rfl, rfl, rfl⟩

theorem append {a b : List Note} {i j : List Item} {m n : Nat} {s t : Bool} (ha : Seen a i m s)
    (hb : Seen b j n t) : Seen (a ++ b) (i ++ j) (m + n) (s || t) where
  items := by rw [List.filterMap_append, ha.items, hb.items]
  attempts := by rw [List.filterMap_append, ha.attempts, hb.attempts, List.append_nil]
  calls := by rw [List.countP_append, ha.calls, hb.calls]
  taken := by rw [List.any_append, ha.taken, hb.taken]

theorem logged (r : LogRecord) (reply : Fallible (Option Cause)) :
    Seen [.logged r reply] [] 0 (isOverflowTaken (.logged r reply)) :=
  ⟨rfl, rfl, rfl, by rw [List.any_cons, List.any_nil, Bool.or_false]⟩

theorem sent (items : List Item) : Seen (items.map .sent) items 0 false := by
  induction items with
  | nil => exact nil
  | cons i items ih =>
    have h : Seen [.sent i] [i] 0 false := ⟨rfl, rfl, rfl, rfl⟩
    exact h.append ih

theorem sends (cs : List Bytes) :
    Seen (Refetch.sends cs) ((Driver.worthSending cs).map .ok) 0 false := by
  have h := sent ((Driver.worthSending cs).map .ok)
  rw [List.map_map] at h
  exact h

theorem error (e : Option StageError) : Seen (errorNotes e) (e.toList.map .error) 0 false := by
  have h := sent (e.toList.map .error)
  rw [List.map_map] at h
  exact h

theorem retryNotes (a : Assignment Source) : Seen a.retryNotes [] 1 false := by
  unfold Assignment.retryNotes
  split <;> exact ⟨rfl, rfl, rfl, rfl⟩

/-- notes that take up no attempt are all notes since the last one -/
theorem sinceBegan_eq {notes : List Note} {items : List Item} {calls : Nat} {taken : Bool}
    (h : Seen notes items calls taken) : sinceBegan notes = notes := by
  refine List.rtakeWhile_eq_self_iff.mpr fun x hx => ?_
  rw [List.filterMap_eq_nil_iff.mp h.attempts x hx]
  rfl

end Seen

theorem sinceBegan_began (xs ys : List Note) (t : Attempt) :
    sinceBegan (xs ++ .began t :: ys) = sinceBegan ys := by
  induction ys using List.reverseRecOn with
  | nil => exact List.rtakeWhile_concat_neg _ _ _ Bool.false_ne_true
  | append_singleton ys y ih =>
    have e : xs ++ Note.began t :: (ys ++ [y]) = (xs ++ .began t :: ys) ++ [y] := by simp
    unfold sinceBegan at ih ⊢
    rw [e, List.rtakeWhile_concat, List.rtakeWhile_concat, ih]

/-! ## the ceiling -/

theorem outgrows_mono {p : Policy} {a b : List Bytes} (h : a <+: b)
    (ho : p.outgrows a = true) : p.outgrows b = true := by
  unfold Policy.outgrows at ho ⊢
  cases hc : p.ceiling with
  | none => rw [hc] at ho; cases ho
  | some c =>
    rw [hc] at ho
    have hlt : c < byteCount a := of_decide_eq_true ho
    exact decide_eq_true (Nat.lt_of_lt_of_le hlt (byteCount_mono h))

/-- some prefix outgrows the ceiling just when the whole does -/
theorem isSome_overflow? (p : Policy) (cs : List Bytes) :
    (p.overflow? cs).isSome = p.outgrows cs := by
  unfold Policy.overflow?
  cases h : cs.inits.find? p.outgrows with
  | some pre =>
    have hpre : pre <+: cs := (List.mem_inits _ _).mp (List.mem_of_find?_eq_some h)
    rw [outgrows_mono hpre (List.find?_some h)]
    rfl
  | none =>
    have hcs := List.find?_eq_none.mp h cs ((List.mem_inits _ _).mpr (List.prefix_refl cs))
    rw [Bool.eq_false_iff.mpr hcs]
    rfl

/-! ## one attempt -/

theorem replyFate_ended {a : Assignment Source} {k calls : Nat} {e : Option StageError}
    {reply : Fallible (Except Failure (Response Source))}
    (h : a.replyFate k reply = .ended e calls) : e ≠ none ∧ calls = k + 1 := by
  rcases reply with words | f | ⟨_ | _, status, fields, _ | src⟩ <;> cases h <;>
    exact ⟨Option.some_ne_none _, rfl⟩

theorem overflowError_eq_none {c : Close} (h : c.overflowError = none) : c = .clean := by
  cases c with
  | clean => rfl
  | failed cause => cases h
  | brokeDown words => cases h

/-- an event that the log does not take ends the output with an error, and nothing else is seen -/
theorem logged_cases (r : LogRecord) (calls : Nat) (reply : Fallible (Option Cause)) (g : Passage) :
    reply = .ok none ∧ logged r calls reply g = ⟨.logged r (.ok none) :: g.notes, g.fate⟩ ∨
    ∃ e, logged r calls reply g = ⟨[.logged r reply], .ended (some e) calls⟩ ∧
      Seen [.logged r reply] [] 0 false := by
  rcases reply with words | _ | c
  · exact .inr ⟨.internal words, rfl, .logged r _⟩
  · exact .inl ⟨rfl, rfl⟩
  · exact .inr ⟨.log c, rfl, .logged r _⟩

/-- what is seen of the attempt that the output ends in: the chunks `out` are handed out -/
structure Last (a : Assignment Source) (t : Attempt) (notes : List Note) (e : Option StageError)
    (calls : Nat) (out : List Bytes) (taken : Bool) : Prop where
  seen : Seen notes ((Driver.worthSending out).map .ok) calls taken
  clean : e = none → out = t.source.chunks ∧ t.close = .clean
  error : e ≠ none → out = if a.policy.outgrows t.source.chunks && taken then t.source.chunks else []

section
variable {a : Assignment Source} {k calls : Nat} {t t' : Attempt} {w : Surroundings}
  {e : Option StageError}

theorem Last.of_error {notes : List Note} (hs : Seen notes [] calls false) (he : e ≠ none) :
    Last a t notes e calls [] false :=
  ⟨hs, fun h => absurd h he, fun _ => by rw [Bool.and_false]; rfl⟩

theorem failedPassage_ended {received : Nat} {cause : Cause}
    (h : (failedPassage a k received cause w).fate = .ended e calls) :
    ∃ n, calls = k + n ∧ Last a t (failedPassage a k received cause w).notes e n [] false := by
  unfold failedPassage at h ⊢
  cases haborted : w.aborts.head with
  | true =>
    rw [haborted] at h
    cases h
    exact ⟨0, rfl, .of_error .nil (Option.some_ne_none _)⟩
  | false =>
    rw [haborted] at h
    rw [if_neg Bool.false_ne_true] at h ⊢
    by_cases hk : a.policy.maxAttempts ≤ k
    · rw [if_pos hk] at h ⊢
      cases h
      exact ⟨0, rfl, .of_error .nil (Option.some_ne_none _)⟩
    · rw [if_neg hk] at h ⊢
      rcases logged_cases (a.retryRecord k received cause) k w.logs.head
        ⟨a.retryNotes, a.replyFate k w.replies.head⟩ with ⟨-, hl⟩ | ⟨e', hl, hs⟩
      · rw [hl] at h ⊢
        obtain ⟨he, hn⟩ := replyFate_ended h
        have hs := (Seen.logged (a.retryRecord k received cause) (.ok none)).append (.retryNotes a)
        exact ⟨1, hn, .of_error hs he⟩
      · rw [hl] at h ⊢
        cases h
        exact ⟨0, rfl, .of_error hs (Option.some_ne_none _)⟩

theorem passage_ended (h : (passage a k t w).fate = .ended e calls) :
    ∃ n out taken, calls = k + n ∧ Last a t (passage a k t w).notes e n out taken := by
  have hsome := isSome_overflow? a.policy t.source.chunks
  unfold passage at h ⊢
  cases ho : a.policy.overflow? t.source.chunks with
  | some pre =>
    rw [ho] at h hsome
    dsimp only at h ⊢
    rcases logged_cases (a.overflowRecord k (byteCount pre)) k w.logs.head
      ⟨sends t.source.chunks, .ended t.close.overflowError k⟩ with ⟨-, hl⟩ | ⟨e', hl, hs⟩
    · rw [hl] at h ⊢
      cases h
      have hs := (Seen.logged (a.overflowRecord k (byteCount pre)) (.ok none)).append
        (.sends t.source.chunks)
      refine ⟨0, t.source.chunks, true, rfl, hs, fun he => ⟨rfl, overflowError_eq_none he⟩, ?_⟩
      intro _
      rw [← hsome]
      rfl
    · rw [hl] at h ⊢
      cases h
      exact ⟨0, [], false, rfl, .of_error hs (Option.some_ne_none _)⟩
  | none =>
    rw [ho] at h
    cases hc : t.close with
    | clean =>
      simp only [hc] at h ⊢
      cases h
      exact ⟨0, _, false, rfl, .sends t.source.chunks, fun _ => ⟨rfl, hc⟩, fun he => absurd rfl he⟩
    | brokeDown words =>
      simp only [hc] at h ⊢
      cases h
      exact ⟨0, [], false, rfl, .of_error .nil (Option.some_ne_none _)⟩
    | failed cause =>
      simp only [hc] at h ⊢
      obtain ⟨n, hn, hl⟩ := failedPassage_ended (t := t) h
      exact ⟨n, [], false, hn, hl⟩

theorem passage_followed (h : (passage a k t w).fate = .again t') :
    Seen (passage a k t w).notes [] 1 false := by
  have ho := (passage_again h).1
  unfold passage at h ⊢
  rw [ho] at h ⊢
  cases hc : t.close with
  | clean => simp [hc] at h
  | brokeDown words => simp [hc] at h
  | failed cause =>
    simp only [hc] at h ⊢
    rw [(failedPassage_again h).2]
    have hs := (Seen.logged (a.retryRecord k (byteCount t.source.chunks) cause)
      (.ok none)).append (.retryNotes a)
    exact hs

theorem attempts_ended (h : (passage a k t w).fate = .ended e calls) :
    ((passage a k t w).notes ++ errorNotes e).filterMap attemptOf = [] := by
  obtain ⟨n, out, taken, -, hlast⟩ := passage_ended h
  exact (hlast.seen.append (.error e)).attempts

theorem attempts_again {notes : List Note} (h : (passage a k t w).fate = .again t') :
    ((passage a k t w).notes ++ .began t' :: notes).filterMap attemptOf
      = t' :: notes.filterMap attemptOf := by
  rw [List.filterMap_append, (passage_followed h).attempts]
  rfl

end

/-! ## a whole run -/

/-- what is seen of a whole run: its items are those of its last attempt, and the error if any -/
theorem Story.seen {a : Assignment Source} {k : Nat} {t last : Attempt} {w : Surroundings}
    {notes : List Note} {v : Verdict} (s : Story a k t w notes last v) :
    ∃ out final n, Last a last final v.error n out ((sinceBegan notes).any isOverflowTaken) ∧
      notes.filterMap itemOf = (Driver.worthSending out).map .ok ++ v.error.toList.map .error ∧
      (t :: notes.filterMap attemptOf).getLast? = some last ∧
      v.calls = k + notes.countP isCall := by
  induction s with
  | @ended k t w e calls h =>
    obtain ⟨n, out, taken, hn, hl⟩ := passage_ended h
    have hs := hl.seen.append (.error e)
    rw [Bool.or_false, Nat.add_zero] at hs
    refine ⟨out, (passage a k t w).notes, n, ?_, hs.items, ?_, ?_⟩
    · rw [hs.sinceBegan_eq, hs.taken]
      exact hl
    · rw [hs.attempts]
      rfl
    · rw [hs.calls]
      exact hn
  | @again k t t' last w notes v h rest ih =>
    obtain ⟨out, final, n, hl, hi, ha, hc⟩ := ih
    have hs := passage_followed h
    refine ⟨out, final, n, ?_, ?_, ?_, ?_⟩
    · rw [sinceBegan_began]
      exact hl
    · rw [List.filterMap_append, hs.items]
      exact hi
    · rw [List.filterMap_append, hs.attempts]
      show (t :: t' :: notes.filterMap attemptOf).getLast? = some last
      rw [List.getLast?_cons_cons]
      exact ha
    · rw [List.countP_append, hs.calls, hc]
      have e : (Note.began t' :: notes).countP isCall = notes.countP isCall := by
        rw [List.countP_cons]
        rfl
      rw [e]
      omega

end Refetch

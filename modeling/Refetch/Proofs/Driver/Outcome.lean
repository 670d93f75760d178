import Refetch.Proofs.Driver.Refinement
import Refetch.Proofs.Driver.Seen
/-!
# What a run comes to

* `ends_of_start`      every run comes to an end, and a story tells what was seen;
* `ends_of_passage`    a run whose first attempt is its last one;
* `ends_as_scanned`    its error and its transport calls are those of the scan;
* `output_of_last`     the output holds the bytes of the last attempt, or an error.
-/

namespace Refetch

open Session Driver

theorem ends_of_start (a : Assignment Source) (w : Surroundings) :
    ∃ s story last v, Story a 1 ⟨a.source, a.promised⟩ w story last v ∧
      s.notes = .began ⟨a.source, a.promised⟩ :: story ∧ ∀ u, Ends (.start a w) u ↔ u = s := by
  obtain ⟨story, last, v, hst⟩ := exists_story a 1 ⟨a.source, a.promised⟩ w
  obtain ⟨m, u, hu⟩ := ends_of_story a 1 w [.began ⟨a.source, a.promised⟩] hst
  refine ⟨⟨standing a m none .stopped, u, .began ⟨a.source, a.promised⟩ :: story⟩, story, last, v,
    hst, rfl, fun s => ?_⟩
  constructor
  · intro hs
    exact hs.unique hu
  · rintro rfl
    exact hu

/-- a run whose first attempt is its last one: its items and its calls are those of the passage -/
theorem ends_of_passage {a : Assignment Source} {w : Surroundings} {notes : List Note}
    {items : List Item} {n calls : Nat} {taken : Bool} {e : Option StageError}
    (h : passage a 1 ⟨a.source, a.promised⟩ w = ⟨notes, .ended e calls⟩)
    (hs : Seen notes items n taken) :
    ∃ s, (∀ u, Ends (.start a w) u ↔ u = s) ∧ s.dispatches = 1 + n ∧
      s.sent = items ++ e.toList.map .error := by
  obtain ⟨s, story, last, v, hst, hnotes, hends⟩ := ends_of_start a w
  refine ⟨s, hends, ?_⟩
  cases hst with
  | again hagain rest =>
    rw [h] at hagain
    cases hagain
  | ended hended =>
    rw [h] at hended hnotes
    cases hended
    have hseen := hs.append (.error e)
    constructor
    · have hcalls := hseen.calls
      rw [dispatches, hnotes]
      exact congrArg (1 + ·) hcalls
    · rw [sent, hnotes]
      exact hseen.items

/-! ## the verdict -/

theorem verdict_of_sent {s : Session} {cs : List Bytes} {e : Option StageError}
    (h : s.sent = cs.map .ok ++ e.toList.map .error) : s.verdict = e := by
  unfold verdict
  rw [h]
  cases e with
  | some e => rw [Option.toList_some, List.map_singleton, List.getLast?_concat]
  | none =>
    rw [Option.toList_none, List.map_nil, List.append_nil, List.getLast?_map]
    cases cs.getLast? <;> rfl

/-- a run comes to one end; its error and its transport calls are those of the scan -/
theorem ends_as_scanned (a : Assignment Source) (w : Surroundings) :
    ∃ s, (∀ u, Ends (.start a w) u ↔ u = s) ∧
      scan a 1 ⟨a.source, a.promised⟩ w = ⟨s.verdict, s.dispatches⟩ := by
  obtain ⟨s, story, last, v, hst, hnotes, hends⟩ := ends_of_start a w
  obtain ⟨out, final, n, -, hitems, -, hcalls⟩ := hst.seen
  refine ⟨s, hends, ?_⟩
  have hsent : s.sent = (worthSending out).map .ok ++ v.error.toList.map .error := by
    rw [sent, hnotes]
    exact hitems
  have hdispatches : s.dispatches = v.calls := by
    rw [dispatches, hnotes, hcalls, List.countP_cons]
    rfl
  rw [hst.scan_eq, verdict_of_sent hsent, hdispatches]

/-! ## the output -/

theorem ne_nil_of_mem_worthSending {cs : List Bytes} :
    ∀ c ∈ worthSending cs, c ≠ [] := by
  rintro _ hc rfl
  exact absurd (List.mem_filter.mp hc).2 Bool.false_ne_true

theorem flatten_worthSending (cs : List Bytes) : (worthSending cs).flatten = cs.flatten :=
  List.flatten_filter_not_isEmpty

/-- an attempt that ends well gave at least what its response promised -/
theorem Attempt.of_close_clean {t : Attempt} (h : t.close = .clean) :
    t.source.ending = .clean ∧
      ∀ n, t.promised = some n → n ≤ t.source.chunks.flatten.length := by
  unfold Attempt.close at h
  cases he : t.source.ending with
  | failure f => simp [he] at h
  | breakdown words => simp [he] at h
  | clean =>
    refine ⟨rfl, fun n hn => ?_⟩
    simp only [he, hn] at h
    by_cases hlt : byteCount t.source.chunks < n
    · simp [hlt] at h
    · exact (Nat.le_of_not_lt hlt).trans (byteCount_le_length _)

/-- The output of a run is chunks that are not empty, then its end or one error.  Without an error
the chunks are all the bytes of the last attempt taken up, which ended well and kept the promise of
its own response.  With an error there are no chunks, unless the last attempt outgrew the ceiling
and the log took its overflow: then they are all that the attempt gave. -/
theorem output_of_last (a : Assignment Source) (w : Surroundings) :
    ∃ s, (∀ u, Ends (.start a w) u ↔ u = s) ∧
      ∃ (last : Attempt) (cs : List Bytes),
        s.attempts.getLast? = some last ∧ (∀ c ∈ cs, c ≠ []) ∧
        ((s.sent = cs.map .ok ∧ cs.flatten = last.source.chunks.flatten ∧
            last.source.ending = .clean ∧ ∀ n, last.promised = some n → n ≤ cs.flatten.length) ∨
          (∃ e, s.sent = cs.map .ok ++ [.error e] ∧
            cs.flatten = if a.policy.outgrows last.source.chunks && s.overflowTaken
              then last.source.chunks.flatten else [])) := by
  obtain ⟨s, story, last, v, hst, hnotes, hends⟩ := ends_of_start a w
  obtain ⟨out, final, n, hlast, hitems, hattempts, -⟩ := hst.seen
  have hsent : s.sent = (worthSending out).map .ok ++ v.error.toList.map .error := by
    rw [sent, hnotes]
    exact hitems
  have htaken : s.overflowTaken = (sinceBegan story).any isOverflowTaken := by
    have hb := sinceBegan_began [] story ⟨a.source, a.promised⟩
    rw [List.nil_append] at hb
    rw [overflowTaken, hnotes, hb]
  refine ⟨s, hends, last, worthSending out, ?_, ne_nil_of_mem_worthSending, ?_⟩
  · rw [attempts, hnotes]
    exact hattempts
  · rw [flatten_worthSending, htaken]
    cases he : v.error with
    | none =>
      obtain ⟨hout, hclose⟩ := hlast.clean he
      obtain ⟨hending, hpromised⟩ := Attempt.of_close_clean hclose
      rw [he] at hsent
      rw [hout] at hsent ⊢
      exact .inl ⟨hsent.trans (List.append_nil _), rfl, hending, hpromised⟩
    | some e =>
      have hout := hlast.error (by rw [he]; exact Option.some_ne_none e)
      rw [he] at hsent
      refine .inr ⟨e, hsent, ?_⟩
      rw [hout]
      split <;> rfl

end Refetch

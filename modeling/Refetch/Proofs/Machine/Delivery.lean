import Refetch.Proofs.Machine.Accounting
/-!
# What the retry machine hands out

Over a whole run, told in any order:

* `Machine.due`        the chunks that must have been handed out by now;
* `handedOut_after`    they have been, each once and in order, and no others;
* `Machine.gaveUp`     an attempt has ended of which nothing was handed out;
* `delivered_whole`    both together, for every run and every attempt given up on the way.

A run hands out nothing, or exactly what its current attempt took in.
-/

namespace Refetch

open Machine

/-- the chunks that must have been handed out by now, of those that the attempt took in -/
def Machine.due (m : Machine) (taken : List Bytes) : List Bytes :=
  match m.phase with
  | .buffering | .retrying => []
  | .streaming | .completed => taken
  | .failed | .cancelled => if m.overflowed then taken else []

/-- the last attempt ended, and nothing of it was handed out -/
def Machine.gaveUp (m : Machine) : Bool :=
  match m.phase with
  | .retrying => true
  | .failed | .cancelled => !m.overflowed
  | .buffering | .streaming | .completed => false

section
variable {h : History} {m : Machine}

theorem due_of_closed {m' : Machine} (hf : Flagged h m) (ho : m.phase.isTerminal = false)
    (hp : m'.phase = .failed ∨ m'.phase = .cancelled) (hv : m'.overflowed = m.overflowed)
    (taken : List Bytes) : m'.due taken = m.due taken := by
  have e : m'.due taken = if m.overflowed then taken else [] := by
    rcases hp with hp | hp <;> rw [due, hp, hv]
  rw [e]
  cases hq : m.phase with
  | buffering => rw [hf.within (.inl hq), due, hq]; rfl
  | streaming => rw [hf.streaming hq, due, hq]; rfl
  | retrying => rw [hf.within (.inr hq), due, hq]; rfl
  | completed => rw [hq] at ho; cases ho
  | failed => rw [hq] at ho; cases ho
  | cancelled => rw [hq] at ho; cases ho

/-- a move that neither takes a chunk nor hands one out, and leaves what is due -/
theorem handedOut_quiet (hd : handedOut h = m.due (accepted h)) (e : Event) (m' : Machine)
    (hb : e.isBegin = false) (ht : e.taken = []) (hg : e.given = [])
    (hm : ∀ taken, m'.due taken = m.due taken) :
    handedOut (h ++ [e]) = m'.due (accepted (h ++ [e])) := by
  rw [handedOut_snoc, hg, List.append_nil, accepted_quiet h e hb ht, hm, hd]

theorem handedOut_move {op : Op} {r : Result} {m' : Machine} (hc : Counted h m)
    (hf : Flagged h m) (hd : handedOut h = m.due (accepted h)) (hm : Move m op r m') :
    handedOut (h ++ [⟨m.phase, op, r⟩]) = m'.due (accepted (h ++ [⟨m.phase, op, r⟩])) := by
  cases hm with
  | hold c hp fits =>
    rw [handedOut_snoc, hd, due, hp, due, show (m.holding c).phase = .buffering from hp]
    rfl
  | outgrow c hp beyond =>
    -- what was held back is all that the attempt took in, and it goes out with the new chunk
    rw [handedOut_snoc, hd, accepted_snoc _ _ rfl, due, hp]
    show m.held ++ [c] = accepted h ++ [c]
    rw [hc.held_buffering hp]
  | pass c hp =>
    rw [handedOut_snoc, hd, accepted_snoc _ _ rfl, due, hp, due,
      show (m.receive c.length).phase = .streaming from hp]
    rfl
  | finish hr =>
    rw [handedOut_snoc, hd, accepted_quiet _ _ rfl (taken_of_no_chunk _ .finish _ rfl)]
    show m.due (accepted h) ++ m.held = accepted h
    cases hp : m.phase with
    | buffering => rw [due, hp, hc.held_buffering hp, List.nil_append]
    | streaming => rw [due, hp, hc.held_other (by rw [hp]; simp), List.append_nil]
    | _ => simp [isReading, hp] at hr
  | giveUp cause aborted e ho idle why =>
    exact handedOut_quiet hd _ _ rfl (taken_of_no_chunk _ _ _ rfl) rfl
      (due_of_closed hf ho (.inl rfl) rfl)
  | retry cause ho idle fits left =>
    refine handedOut_quiet hd _ _ rfl (taken_of_no_chunk _ _ _ rfl) rfl (fun taken => ?_)
    show [] = m.due taken
    cases hp : m.phase with
    | buffering => rw [due, hp]
    | retrying => rw [due, hp]
    | streaming => rw [hf.streaming hp] at fits; cases fits
    | _ => rw [hp] at ho; cases ho
  | begin hp fits =>
    rw [handedOut_snoc, hd, due, hp]
    rfl
  | fail e ho =>
    exact handedOut_quiet hd _ _ rfl (taken_of_no_chunk _ _ _ rfl) rfl
      (due_of_closed hf ho (.inl rfl) rfl)
  | cancel ho =>
    exact handedOut_quiet hd _ _ rfl (taken_of_no_chunk _ _ _ rfl) rfl
      (due_of_closed hf ho (.inr rfl) rfl)
  | refuse op hr =>
    exact handedOut_quiet hd _ _ (isBegin_refusal _ _) (taken_refused m op hr) (given_refusal _ _)
      (fun _ => rfl)

end

theorem handedOut_after (p : Policy) (ops : List Op) :
    handedOut ((new p).history ops) = ((new p).after ops).due (accepted ((new p).history ops)) := by
  have hall := after_induction
    (P := fun h m => Counted h m ∧ Flagged h m ∧ handedOut h = m.due (accepted h))
    p ⟨.new p, .new p, rfl⟩ (fun h m op r m' hp hm =>
      ⟨hp.1.move hm, hp.2.1.move hm, handedOut_move hp.1 hp.2.1 hp.2.2 hm⟩) ops
  exact hall.2.2

/-- a run hands out nothing, or all that its current attempt took in -/
theorem due_eq (m : Machine) (taken : List Bytes) : m.due taken = [] ∨ m.due taken = taken := by
  have hclosed : (if m.overflowed then taken else []) = [] ∨
      (if m.overflowed then taken else []) = taken := by
    cases m.overflowed with
    | true => exact .inr rfl
    | false => exact .inl rfl
  unfold due
  cases m.phase with
  | buffering => exact .inl rfl
  | retrying => exact .inl rfl
  | streaming => exact .inr rfl
  | completed => exact .inr rfl
  | failed => exact hclosed
  | cancelled => exact hclosed

/-! ## attempts that were given up -/

theorem due_of_gaveUp (m : Machine) (h : m.gaveUp = true) (taken : List Bytes) :
    m.due taken = [] := by
  cases hp : m.phase <;> simp_all [due, gaveUp]

/-- an attempt that was given up stays so until the next one begins -/
theorem gaveUp_move {h : History} {m : Machine} {op : Op} {r : Result} {m' : Machine}
    (hf : Flagged h m) (hg : m.gaveUp = true) (hm : Move m op r m') :
    m'.gaveUp = true ∨ (⟨m.phase, op, r⟩ : Event).isBegin = true := by
  have hread : m.isReading = false := by cases hp : m.phase <;> simp_all [gaveUp, isReading]
  have hclosed (ho : m.phase.isTerminal = false) : m.overflowed = false := by
    refine hf.within (.inr ?_)
    cases hp : m.phase <;> simp_all [gaveUp, Phase.isTerminal]
  cases hm with
  | hold c hp fits => simp [isReading, hp] at hread
  | outgrow c hp beyond => simp [isReading, hp] at hread
  | pass c hp => simp [isReading, hp] at hread
  | finish hr => rw [hr] at hread; cases hread
  | giveUp cause aborted e ho idle why => exact .inl (congrArg not (hclosed ho))
  | retry cause ho idle fits left => exact .inl rfl
  | begin hp fits => exact .inr rfl
  | fail e ho => exact .inl (congrArg not (hclosed ho))
  | cancel ho => exact .inl (congrArg not (hclosed ho))
  | refuse op hr => exact .inl hg

theorem gaveUp_or_begun (p : Policy) (pre post : List Op)
    (hg : ((new p).after pre).gaveUp = true) :
    ((new p).after (pre ++ post)).gaveUp = true ∨
      (((new p).after pre).history post).any Event.isBegin = true := by
  induction post using List.reverseRecOn with
  | nil => exact .inl (by rw [List.append_nil]; exact hg)
  | append_singleton post op ih =>
    rw [history_snoc, List.any_append, ← List.append_assoc, after_snoc, ← after_append]
    rcases ih with ih | ih
    · rcases gaveUp_move (flagged_after p _) ih (move_step _ op) with h | h
      · exact .inl h
      · exact .inr (by rw [List.any_cons, h]; simp)
    · exact .inr (by rw [ih, Bool.true_or])

theorem sinceBegin_append (a b : History) (hb : b.any Event.isBegin = true) :
    sinceBegin (a ++ b) = sinceBegin b := by
  induction b using List.reverseRecOn with
  | nil => cases hb
  | append_singleton b e ih =>
    rw [← List.append_assoc, sinceBegin_snoc, sinceBegin_snoc]
    cases he : e.isBegin with
    | true => rfl
    | false =>
      have hb' : b.any Event.isBegin = true := by simpa [List.any_append, he] using hb
      rw [ih hb']

/-! ## the whole of it -/

/-- **No mixed bytes.**  A run has handed out what is due of its current attempt, each chunk once
and in order; and once an attempt was given up with nothing handed out, whatever goes out was taken
in later. -/
theorem delivered_whole (p : Policy) (ops : List Op) :
    handedOut ((new p).history ops) = ((new p).after ops).due (accepted ((new p).history ops)) ∧
    ∀ pre post, ops = pre ++ post → ((new p).after pre).gaveUp = true →
      handedOut ((new p).history ops) = [] ∨
      handedOut ((new p).history ops) = accepted (((new p).after pre).history post) := by
  refine ⟨handedOut_after p ops, ?_⟩
  rintro pre post rfl hg
  rw [handedOut_after]
  rcases gaveUp_or_begun p pre post hg with h | h
  · exact .inl (due_of_gaveUp _ h _)
  · have ha : accepted ((new p).history (pre ++ post))
        = accepted (((new p).after pre).history post) := by
      rw [history_append, accepted, accepted, sinceBegin_append _ _ h]
    rw [ha]
    exact due_eq _ _

/-- the first attempt is given up with one chunk held back, the second one is handed out -/
example : handedOut ((new { maxAttempts := 2 }).history
    [.chunk [97], .failure (.stated "reset") false, .begin, .chunk [98], .chunk [], .finish])
    = [[98], []] := rfl

end Refetch

import Refetch.Proofs.Driver.Attempt
/-!
# The driver follows its reference

* `Follows`          a session goes on as a passage says;
* `follows_logged`   over a logged event;
* `follows_retry`    over a retry, from its event to the reply of the transport;
* `follows_passage`  over one attempt;
* `ends_of_story`    over a whole run.
-/

namespace Refetch

open Machine Driver

/-- from here a session goes on as a passage of attempt `k` says, with the notes `notes` behind it
and the surroundings `next` before the next attempt -/
def Follows (a : Assignment Source) (k : Nat) (next : Surroundings) (s : Session)
    (notes : List Note) (g : Passage) : Prop :=
  match g.fate with
  | .ended e _ => ∃ m w, Session.Leads s
      ⟨standing a m none .stopped, w, notes ++ g.notes ++ errorNotes e⟩
  | .again t => Session.Leads s
      ⟨standing a (holdingAt a.policy (k + 1) []) (some t) .reading, next,
        notes ++ g.notes ++ [.began t]⟩

section
variable {a : Assignment Source} {k : Nat} {next : Surroundings} {s s' : Session}
  {notes : List Note} {g : Passage}

theorem Follows.ended {e : Option StageError} {calls : Nat} (hf : Follows a k next s notes g)
    (h : g.fate = .ended e calls) :
    ∃ m w, Session.Leads s ⟨standing a m none .stopped, w, notes ++ g.notes ++ errorNotes e⟩ := by
  rw [Follows, h] at hf
  exact hf

theorem Follows.again {t : Attempt} (hf : Follows a k next s notes g) (h : g.fate = .again t) :
    Session.Leads s ⟨standing a (holdingAt a.policy (k + 1) []) (some t) .reading, next,
      notes ++ g.notes ++ [.began t]⟩ := by
  rw [Follows, h] at hf
  exact hf

theorem Follows.of_leads (h : Session.Leads s s') (hf : Follows a k next s' notes g) :
    Follows a k next s notes g := by
  unfold Follows
  cases hg : g.fate with
  | ended e calls =>
    obtain ⟨m, w, hl⟩ := hf.ended hg
    exact ⟨m, w, h.trans hl⟩
  | again t => exact h.trans (hf.again hg)

/-- notes that were made already may be told as part of the passage -/
theorem Follows.append {xs ys : List Note} {f : Fate}
    (hf : Follows a k next s (notes ++ xs) ⟨ys, f⟩) :
    Follows a k next s notes ⟨xs ++ ys, f⟩ := by
  unfold Follows at hf ⊢
  rw [← List.append_assoc notes xs ys]
  exact hf

theorem Follows.cons {x : Note} {ys : List Note} {f : Fate}
    (hf : Follows a k next s (notes ++ [x]) ⟨ys, f⟩) :
    Follows a k next s notes ⟨x :: ys, f⟩ :=
  hf.append

theorem follows_stopped (m : Machine) (w : Surroundings) (calls : Nat) :
    Follows a k next ⟨standing a m none .stopped, w, notes⟩ notes ⟨[], .ended none calls⟩ := by
  refine ⟨m, w, ?_⟩
  rw [List.append_nil, errorNotes, Option.toList_none, List.map_nil, List.append_nil]
  exact .refl _

theorem follows_failing (m : Machine) (w : Surroundings) (e : StageError) (calls : Nat) :
    Follows a k next ⟨standing a m none (.failing e), w, notes⟩ notes
      ⟨[], .ended (some e) calls⟩ := by
  refine ⟨m, w, ?_⟩
  rw [List.append_nil]
  exact leads_failing a m w e notes

theorem follows_logged (reply : Fallible (Option Cause)) (r : LogRecord) (calls : Nat)
    (d : Fallible (Option Cause) → Driver Source) (w : Surroundings)
    (hs : s.step = ⟨d reply, w, notes ++ [.logged r reply]⟩)
    (hbreak : ∀ words, ∃ m, d (.error words) = standing a m none (.failing (.internal words)))
    (hrefuse : ∀ c, ∃ m, d (.ok (some c)) = standing a m none (.failing (.log c)))
    (htake : Follows a k next ⟨d (.ok none), w, notes ++ [.logged r (.ok none)]⟩
      (notes ++ [.logged r (.ok none)]) g) :
    Follows a k next s notes (logged r calls reply g) := by
  refine .of_leads (.of_step hs) ?_
  rcases reply with words | _ | c
  · obtain ⟨m, hm⟩ := hbreak words
    rw [hm]
    exact (follows_failing m w (.internal words) calls).cons
  · exact htake.cons
  · obtain ⟨m, hm⟩ := hrefuse c
    rw [hm]
    exact (follows_failing m w (.log c) calls).cons

end

section
variable (a : Assignment Source) (k : Nat) (got : List Bytes) (w : Surroundings)
  (notes : List Note)

/-! ## a retry -/

theorem takenUp_released (m : Machine) (p : Point) (method : Http.Method)
    (reply : Fallible (Except Failure (Response Source))) :
    Session.takenUp (standing a m none p) method reply = [] := by
  rcases reply with words | f | r <;> rfl

def replied (reply : Fallible (Except Failure (Response Source))) : Driver Source :=
  ((standing a (awaitingAt a.policy k got) none .dispatching).react ⟨false, w.aborts.head⟩
    (Fallible.answer .responded reply)).1

theorem step_dispatching :
    Session.step ⟨standing a (awaitingAt a.policy k got) none .dispatching, w, notes⟩
      = ⟨replied a k got w w.replies.head, ⟨w.logs, w.aborts, w.replies.tail⟩,
        notes ++ [.called a.request a.context] ++
          Session.takenUp (replied a k got w w.replies.head) a.request.method w.replies.head⟩ := rfl

/-- a reply that gives no usable body ends the output -/
theorem follows_useless (next : Surroundings) (m : Machine) (e : StageError)
    (h : replied a k got w w.replies.head = standing a m none (.failing e)) :
    Follows a k next ⟨standing a (awaitingAt a.policy k got) none .dispatching, w, notes⟩ notes
      ⟨[.called a.request a.context], .ended (some e) (k + 1)⟩ := by
  refine .of_leads (.of_step (step_dispatching a k got w notes)) (Follows.cons ?_)
  rw [h, takenUp_released, List.append_nil]
  exact follows_failing m _ e (k + 1)

theorem follows_reply :
    Follows a k ⟨w.logs, w.aborts, w.replies.tail⟩
      ⟨standing a (awaitingAt a.policy k got) none .dispatching, w, notes⟩ notes
      ⟨[.called a.request a.context], a.replyFate k w.replies.head⟩ := by
  have hu := follows_useless a k got w notes ⟨w.logs, w.aborts, w.replies.tail⟩
  rcases h : w.replies.head with words | f | ⟨_ | _, status, fields, _ | src⟩
  · exact hu _ _ (by rw [h]; rfl)
  · exact hu _ _ (by rw [h]; rfl)
  · exact hu _ _ (by rw [h]; rfl)
  · exact hu _ _ (by rw [h]; rfl)
  · exact hu _ _ (by rw [h]; rfl)
  · -- a body of a successful response: the next attempt begins
    have hs := step_dispatching a k got w notes
    rw [h] at hs
    exact .of_step hs

/-- the pause of a retry passes, if there is one -/
theorem follows_pause :
    Follows a k ⟨w.logs, w.aborts, w.replies.tail⟩
      ⟨standing a (awaitingAt a.policy k got) none
        (if a.policy.delay.isZero then .dispatching else .pausing), w, notes⟩ notes
      ⟨a.retryNotes, a.replyFate k w.replies.head⟩ := by
  unfold Assignment.retryNotes
  simp only [Delay.isZero_iff]
  by_cases hz : a.policy.delay.ms = 0
  · rw [if_pos hz, if_pos hz]
    exact follows_reply a k got w notes
  · rw [if_neg hz, if_neg hz]
    have hs : Session.step ⟨standing a (awaitingAt a.policy k got) none .pausing, w, notes⟩
        = ⟨standing a (awaitingAt a.policy k got) none .dispatching, w,
          notes ++ [.paused a.policy.delay]⟩ := rfl
    exact .of_leads (.of_step hs) (follows_reply a k got w _).cons

theorem follows_retry (cause : Cause) :
    Follows a k ⟨w.logs.tail, w.aborts, w.replies.tail⟩
      ⟨standing a (awaitingAt a.policy k got) none (.loggingRetry cause), w, notes⟩ notes
      (logged (a.retryRecord k (byteCount got) cause) k w.logs.head
        ⟨a.retryNotes, a.replyFate k w.replies.head⟩) := by
  refine follows_logged w.logs.head _ k
    (fun reply => ((standing a (awaitingAt a.policy k got) none (.loggingRetry cause)).react
      ⟨false, w.aborts.head⟩ (Fallible.answer .logged reply)).1) ⟨w.logs.tail, w.aborts, w.replies⟩
    rfl (fun words => ⟨_, rfl⟩) (fun c => ⟨_, rfl⟩) ?_
  exact follows_pause a k got ⟨w.logs.tail, w.aborts, w.replies⟩ _

/-- an attempt below its ceiling has failed -/
theorem follows_failure (t : Attempt) (cause : Cause) :
    Follows a k w.next
      ⟨((standing a (holdingAt a.policy k got) (some t) .reading).onFailure
        ⟨false, w.aborts.head⟩ cause).1, ⟨w.logs, w.aborts.tail, w.replies⟩, notes⟩ notes
      (failedPassage a k (byteCount got) cause w) := by
  have hd (aborted : Bool) :
      ((standing a (holdingAt a.policy k got) (some t) .reading).onFailure ⟨false, aborted⟩ cause).1
        = ((standing a ((holdingAt a.policy k got).onFailure cause aborted).2 (some t)
            .reading).apply ((holdingAt a.policy k got).onFailure cause aborted).1).1 := rfl
  rw [hd]
  unfold failedPassage
  cases w.aborts.head with
  | true => exact follows_failing _ _ (.aborted cause) k
  | false =>
    by_cases hk : a.policy.maxAttempts ≤ k
    · rw [onFailure_exhausted _ _ _ _ hk, if_neg Bool.false_ne_true, if_pos hk]
      exact follows_failing _ _ (.exhausted k cause) k
    · rw [onFailure_retry _ _ _ _ hk, if_neg Bool.false_ne_true, if_neg hk]
      exact follows_retry a k got ⟨w.logs, w.aborts.tail, w.replies⟩ notes cause

/-! ## one attempt -/

theorem follows_streamed (e : Ending) (promised : Option Nat) (next : Surroundings) :
    Follows a k next
      ⟨standing a (streamingAt a.policy k got) (some ⟨⟨[], e⟩, promised⟩) .reading, w, notes⟩ notes
      ⟨[], .ended (Attempt.close ⟨⟨got, e⟩, promised⟩).overflowError k⟩ := by
  refine .of_leads (.of_step rfl) ?_
  show Follows a k next ⟨(react ⟨false, w.aborts.head⟩ _ e.answer).1, _, notes⟩ notes _
  rw [react_ending a e promised (streamingAt a.policy k got) got rfl]
  cases Attempt.close ⟨⟨got, e⟩, promised⟩ with
  | clean => exact follows_stopped _ _ k
  | failed cause => exact follows_failing _ _ (.overflow cause) k
  | brokeDown words => exact follows_failing _ _ (.internal words) k

theorem follows_held (e : Ending) (promised : Option Nat) :
    Follows a k w.next
      ⟨standing a (holdingAt a.policy k got) (some ⟨⟨[], e⟩, promised⟩) .reading, w, notes⟩ notes
      (match Attempt.close ⟨⟨got, e⟩, promised⟩ with
        | .clean => ⟨sends got, .ended none k⟩
        | .failed cause => failedPassage a k (byteCount got) cause w
        | .brokeDown words => ⟨[], .ended (some (.internal words)) k⟩) := by
  refine .of_leads (.of_step rfl) ?_
  show Follows a k w.next ⟨(react ⟨false, w.aborts.head⟩ _ e.answer).1, _, notes⟩ notes _
  rw [react_ending a e promised (holdingAt a.policy k got) got rfl]
  cases Attempt.close ⟨⟨got, e⟩, promised⟩ with
  | clean =>
    refine .of_leads (leads_emit a _ _ _ true got .reading notes) ?_
    have hf : Follows a k w.next
        ⟨standing a (holdingAt a.policy k got).onEnd.2 none .stopped,
          ⟨w.logs, w.aborts.tail, w.replies⟩, notes ++ sends got⟩
        (notes ++ sends got) ⟨[], .ended none k⟩ := follows_stopped _ _ k
    have happ := hf.append
    rw [List.append_nil] at happ
    exact happ
  | failed cause => exact follows_failure a k got w notes _ cause
  | brokeDown words => exact follows_failing _ _ (.internal words) k

theorem outgrows_nil (p : Policy) : p.outgrows [] = false := by
  rw [Policy.outgrows, byteCount_nil]
  cases p.ceiling <;> simp

/-- one attempt, from its first chunk until the output ends or the next attempt begins -/
theorem follows_passage (t : Attempt) :
    Follows a k w.next ⟨standing a (holdingAt a.policy k []) (some t) .reading, w, notes⟩ notes
      (passage a k t w) := by
  obtain ⟨⟨cs, e⟩, promised⟩ := t
  have hinits : (cs.inits.map fun x => [] ++ x) = cs.inits := by simp
  unfold passage
  cases ho : a.policy.overflow? cs with
  | none =>
    have hl := leads_holding a k w e promised cs [] notes (outgrows_nil _)
      (by rw [hinits]; exact ho)
    dsimp only
    exact .of_leads hl (follows_held a k cs w notes e promised)
  | some pre =>
    obtain ⟨rest, hr, hl⟩ := leads_overflow a k w e promised cs [] pre notes (outgrows_nil _)
      (by rw [hinits]; exact ho)
    have hcs : cs = pre ++ rest := hr
    dsimp only
    refine .of_leads hl (follows_logged w.logs.head _ k
      (fun reply => ((standing a (streamingAt a.policy k pre) (some ⟨⟨rest, e⟩, promised⟩)
        (.loggingOverflow (.forward pre))).react
        ⟨false, w.aborts.head⟩ (Fallible.answer .logged reply)).1)
      ⟨w.logs.tail, w.aborts, w.replies⟩ rfl (fun words => ⟨_, rfl⟩) (fun c => ⟨_, rfl⟩) ?_)
    -- what was held back goes out, then the rest as it comes, and the body ends
    refine .of_leads (leads_emit a _ _ _ false pre _ _) ?_
    refine .of_leads (leads_streaming a k _ e promised rest pre _) ?_
    have hend := follows_streamed a k (pre ++ rest) ⟨w.logs.tail, w.aborts, w.replies⟩
      (notes ++ [.logged (a.overflowRecord k (byteCount pre)) (.ok none)] ++ sends pre ++ sends rest)
      e promised w.next
    rw [List.append_assoc (notes ++ _), ← sends_append, ← hcs] at hend
    rw [List.append_assoc (notes ++ _), ← sends_append, ← hcs]
    have happ := hend.append
    rw [List.append_nil] at happ
    exact happ

/-! ## a whole run -/

/-- a run ends as its story says -/
theorem ends_of_story {t last : Attempt} {story : List Note} {v : Verdict}
    (hst : Story a k t w story last v) :
    ∃ m u, Session.Ends ⟨standing a (holdingAt a.policy k []) (some t) .reading, w, notes⟩
      ⟨standing a m none .stopped, u, notes ++ story⟩ := by
  -- one passage for each attempt of the story; the notes behind it grow
  induction hst generalizing notes with
  | @ended k t w e calls h =>
    obtain ⟨m, u, hl⟩ := (follows_passage a k w notes t).ended h
    rw [List.append_assoc] at hl
    exact ⟨m, u, hl, rfl⟩
  | @again k t t' last w story v h rest ih =>
    have hl := (follows_passage a k w notes t).again h
    obtain ⟨m, u, hu⟩ := ih (notes ++ (passage a k t w).notes ++ [.began t'])
    have e : notes ++ (passage a k t w).notes ++ [.began t'] ++ story
        = notes ++ ((passage a k t w).notes ++ .began t' :: story) := by
      rw [← List.append_cons, List.append_assoc]
    rw [e] at hu
    exact ⟨m, u, .of_leads hl hu⟩

end

end Refetch

import Mathlib.Data.List.Infix
import Refetch.Bytes
import Refetch.Proofs.Driver.Session
/-!
# What a guarded body comes to

The run of a driver, said without driver and machine:

* `Policy.outgrows`   chunks that count more than the ceiling;
* `Attempt.close`     how an attempt ends by its own account;
* `passage`           what is seen during one attempt, and what comes of it;
* `scan`              attempt after attempt, until the output ends;
* `Story`             the same with all that is seen on the way.

In a passage an overflow comes before everything else; a failure that it leaves meets the abort
signals, the budget, the log, the transport and the response, in this order.
-/

namespace Refetch

/-- these chunks count more than the ceiling -/
def Policy.outgrows (p : Policy) (cs : List Bytes) : Bool := p.ceiling.any (· < byteCount cs)

/-- the first prefix of these chunks that counts more than the ceiling -/
def Policy.overflow? (p : Policy) (cs : List Bytes) : Option (List Bytes) := cs.inits.find? p.outgrows

/-- how an attempt ends by its own account -/
inductive Close where
  | clean
  | failed (cause : Cause)
  | brokeDown (words : String)

/-- how an attempt ends: a clean end below the promised length is a failure -/
def Attempt.close (t : Attempt) : Close :=
  match t.source.ending with
  | .clean =>
    match t.promised with
    | some n =>
      if byteCount t.source.chunks < n then .failed (prematureEnd (byteCount t.source.chunks) n)
      else .clean
    | none => .clean
  | .failure f => .failed f.normalize
  | .breakdown words => .brokeDown words

/-- the error that ends the output of an attempt past its ceiling -/
def Close.overflowError : Close → Option StageError
  | .clean => none
  | .failed cause => some (.overflow cause)
  | .brokeDown words => some (.internal words)

/-- what comes of an attempt -/
inductive Fate where
  /-- the output ends, with an error or without, after so many transport calls -/
  | ended (e : Option StageError) (calls : Nat)
  | again (t : Attempt)

structure Passage where
  notes : List Note
  fate : Fate

def sends (cs : List Bytes) : List Note := (Driver.worthSending cs).map fun c => .sent (.ok c)

/-- an event is logged; if the log takes it, the passage goes on -/
def logged (r : LogRecord) (calls : Nat) (reply : Fallible (Option Cause)) (next : Passage) :
    Passage :=
  match reply with
  | .ok none => ⟨.logged r reply :: next.notes, next.fate⟩
  | .ok (some c) => ⟨[.logged r reply], .ended (some (.log c)) calls⟩
  | .error words => ⟨[.logged r reply], .ended (some (.internal words)) calls⟩

namespace Assignment

variable (a : Assignment Source)

def overflowRecord (k received : Nat) : LogRecord where
  event := .overflow
  requestId := a.context.requestId
  url := a.request.url.text
  attempt := k
  maxAttempts := a.policy.maxAttempts
  received := received
  delayMs := 0
  error := none

def retryRecord (k received : Nat) (cause : Cause) : LogRecord where
  event := .retry
  requestId := a.context.requestId
  url := a.request.url.text
  attempt := k
  maxAttempts := a.policy.maxAttempts
  received := received
  delayMs := a.policy.delay.ms.toNat
  error := some cause.message

def retryNotes : List Note :=
  (if a.policy.delay.ms = 0 then [] else [.paused a.policy.delay]) ++ [.called a.request a.context]

/-- what comes of the reply to a retry after attempt `k` -/
def replyFate (k : Nat) : Fallible (Except Failure (Response Source)) → Fate
  | .error words => .ended (some (.internal words)) (k + 1)
  | .ok (.error f) => .ended (some (.dispatch f.normalize)) (k + 1)
  | .ok (.ok r) =>
    match r.ok, r.body with
    | true, some src => .again ⟨src, r.expectedLength a.request.method⟩
    | ok, _ => .ended (some (.retryFailed a.request.url.text r.status (unusableReason ok))) (k + 1)

end Assignment

/-- attempt `k` after it failed without an overflow -/
def failedPassage (a : Assignment Source) (k : Nat) (received : Nat) (cause : Cause)
    (w : Surroundings) : Passage :=
  if w.aborts.head then ⟨[], .ended (some (.aborted cause)) k⟩
  else if a.policy.maxAttempts ≤ k then ⟨[], .ended (some (.exhausted k cause)) k⟩
  else logged (a.retryRecord k received cause) k w.logs.head
    ⟨a.retryNotes, a.replyFate k w.replies.head⟩

/-- attempt `k` from its first chunk until the output ends or the next attempt begins -/
def passage (a : Assignment Source) (k : Nat) (t : Attempt) (w : Surroundings) : Passage :=
  match a.policy.overflow? t.source.chunks with
  | some pre =>
    logged (a.overflowRecord k (byteCount pre)) k w.logs.head
      ⟨sends t.source.chunks, .ended t.close.overflowError k⟩
  | none =>
    match t.close with
    | .clean => ⟨sends t.source.chunks, .ended none k⟩
    | .failed cause => failedPassage a k (byteCount t.source.chunks) cause w
    | .brokeDown words => ⟨[], .ended (some (.internal words)) k⟩

/-- the surroundings after an attempt that was followed by another one -/
def Surroundings.next (w : Surroundings) : Surroundings := ⟨w.logs.tail, w.aborts.tail, w.replies.tail⟩

/-! ## attempt after attempt -/

theorem logged_again {r : LogRecord} {n : Nat} {reply : Fallible (Option Cause)} {p : Passage}
    {t : Attempt} (h : (logged r n reply p).fate = .again t) :
    reply = .ok none ∧ p.fate = .again t := by
  rcases reply with words | _ | c
  · cases h
  · exact ⟨rfl, h⟩
  · cases h

/-- a retry has budget left, and the log took its event -/
theorem failedPassage_again {a : Assignment Source} {k received : Nat} {cause : Cause}
    {t : Attempt} {w : Surroundings} (h : (failedPassage a k received cause w).fate = .again t) :
    k < a.policy.maxAttempts ∧ (failedPassage a k received cause w).notes
      = .logged (a.retryRecord k received cause) (.ok none) :: a.retryNotes := by
  unfold failedPassage at h ⊢
  cases haborted : w.aborts.head with
  | true =>
    rw [haborted] at h
    cases h
  | false =>
    rw [haborted] at h
    rw [if_neg Bool.false_ne_true] at h ⊢
    by_cases hk : a.policy.maxAttempts ≤ k
    · rw [if_pos hk] at h
      cases h
    · rw [if_neg hk] at h ⊢
      refine ⟨Nat.lt_of_not_le hk, ?_⟩
      rw [(logged_again h).1]
      rfl

/-- only a failure with budget left is followed by another attempt -/
theorem passage_again {a : Assignment Source} {k : Nat} {t t' : Attempt} {w : Surroundings}
    (h : (passage a k t w).fate = .again t') :
    a.policy.overflow? t.source.chunks = none ∧ k < a.policy.maxAttempts := by
  unfold passage at h
  cases ho : a.policy.overflow? t.source.chunks with
  | some pre =>
    rw [ho] at h
    cases (logged_again h).2
  | none =>
    refine ⟨rfl, ?_⟩
    cases hc : t.close with
    | clean => simp [ho, hc] at h
    | brokeDown words => simp [ho, hc] at h
    | failed cause =>
      simp only [ho, hc] at h
      exact (failedPassage_again h).1

/-- how the output ended, and the number of transport calls made by then -/
structure Verdict where
  error : Option StageError
  calls : Nat
  deriving DecidableEq

/-- the verdict on a run that is at the start of attempt `k` -/
def scan (a : Assignment Source) (k : Nat) (t : Attempt) (w : Surroundings) : Verdict :=
  match h : (passage a k t w).fate with
  | .ended e calls => ⟨e, calls⟩
  | .again t' => scan a (k + 1) t' w.next
termination_by a.policy.maxAttempts - k
decreasing_by
  have := (passage_again h).2
  omega

def errorNotes (e : Option StageError) : List Note := e.toList.map fun e => .sent (.error e)

/-- what is seen of a run from the start of attempt `k`, and its last attempt with its verdict -/
inductive Story (a : Assignment Source) :
    Nat → Attempt → Surroundings → List Note → Attempt → Verdict → Prop where
  | ended {k : Nat} {t : Attempt} {w : Surroundings} {e : Option StageError} {calls : Nat}
      (h : (passage a k t w).fate = .ended e calls) :
      Story a k t w ((passage a k t w).notes ++ errorNotes e) t ⟨e, calls⟩
  | again {k : Nat} {t t' last : Attempt} {w : Surroundings} {notes : List Note} {v : Verdict}
      (h : (passage a k t w).fate = .again t') (rest : Story a (k + 1) t' w.next notes last v) :
      Story a k t w ((passage a k t w).notes ++ .began t' :: notes) last v

theorem Story.scan_eq {a : Assignment Source} {k : Nat} {t last : Attempt} {w : Surroundings}
    {notes : List Note} {v : Verdict} (s : Story a k t w notes last v) : scan a k t w = v := by
  induction s with
  | ended h =>
    rw [scan]
    split <;> simp_all
  | again h rest ih =>
    rw [scan]
    split <;> simp_all

theorem exists_story (a : Assignment Source) (k : Nat) (t : Attempt) (w : Surroundings) :
    ∃ notes last v, Story a k t w notes last v := by
  -- every retry leaves less of the budget
  generalize hn : a.policy.maxAttempts - k = n
  induction n using Nat.strong_induction_on generalizing k t w with
  | _ n ih =>
    cases h : (passage a k t w).fate with
    | ended e calls => exact ⟨_, _, _, .ended h⟩
    | again t' =>
      have hk := (passage_again h).2
      obtain ⟨notes, last, v, rest⟩ := ih (a.policy.maxAttempts - (k + 1)) (by omega) (k + 1) t'
        w.next rfl
      exact ⟨_, _, _, .again h rest⟩

end Refetch

import Refetch.Proofs.Driver.Outcome
import Refetch.Proofs.Driver.Progress
/-!
# Every schedule gives the same output

* `Scheduled`   what a schedule comes to, against the run `s` whose consumer never closes;
* `schedule_independent`   every schedule comes to that, and a fair one gives all of the output.
-/

namespace Refetch

open Session Driver Duet

/-- a consumer that has not closed comes to the end of the output when the driver has ended it and
nothing is queued -/
theorem ended_of_next {o : Output} (ho : o.closed = false) (h : o.next.1 = .finish) :
    o.queue = [] ∧ o.ended = true := by
  unfold Output.next at h
  rw [ho] at h
  cases hq : o.queue with
  | nil => cases he : o.ended <;> simp_all
  | cons i rest => simp [hq] at h

section
variable {a : Assignment Source} {w : Surroundings}

/-- a consumer that comes to the end without a close has received what the run without one sends -/
theorem received_of_next {s : Session} (hs : Ends (.start a w) s) (ts : List Turn)
    (ho : ((Duet.start a w).after ts).output.closed = false)
    (hnext : ((Duet.start a w).after ts).output.next.1 = .finish) :
    received ((Duet.start a w).trace ts) = s.sent := by
  obtain ⟨hqueue, hended⟩ := ended_of_next ho hnext
  have hstopped := (settled_after a w ts).ended hended
  exact ((tracks_after ts).stands ho).received_eq hs hstopped hqueue

theorem Fair.unclosed {ts : Stream' Turn} (hf : Fair ts) {d : Duet} (h : Unclosed d) (k : Nat) :
    Unclosed (d.after (ts.take k)) := by
  induction k generalizing ts d with
  | zero => exact h
  | succ k ih => exact ih hf.tail (h.turned (turned_turn d ts.head) (hf.never 0))

theorem unclosed_start : Unclosed (.start a w) := ⟨rfl, fun h => by cases h⟩

theorem stopsIn_start {s : Session} (hs : Ends (.start a w) s) :
    ∃ n, StopsIn n (Duet.start a w) := by
  obtain ⟨⟨n, hn⟩, hp⟩ := hs
  exact ⟨n, [.began ⟨a.source, a.promised⟩], hn ▸ hp⟩

end

/-- what a schedule comes to, against the run `s` whose consumer never closes -/
structure Scheduled (s : Session) (tr : List Mark) (d : Duet) : Prop where
  /-- what was received is the beginning of what that run sends -/
  received_prefix : received tr <+: s.sent
  /-- a consumer that comes to the end without a close has received all of it -/
  whole : d.output.closed = false → d.output.next.1 = .finish → received tr = s.sent
  /-- from the close on the consumer gets nothing, and the driver neither sends nor polls -/
  late : d.output.closed = true → ∀ us, ∀ m ∈ d.trace us, m.IsLate
  /-- a response that comes after the close is let go, and the driver is done -/
  orphaned : d.output.closed = true → ∀ t r, .told (.responded (.ok r)) ∈ (d.turn t).1 →
    (d.turn t).2.driver.source = none ∧ (d.turn t).2.driver.point = .stopped ∧
      ∀ body, r.body = some body → .letGo body ∈ (d.turn t).1
  /-- a driver that is done holds no source -/
  stopped : d.driver.point = .stopped → d.driver.source = none

/-- Whatever the order in which a driver and its consumer move, the consumer receives a beginning of
what the run without a close sends, and all of it when it comes to the end; a fair schedule without
a close comes to the end. -/
theorem schedule_independent (a : Assignment Source) (w : Surroundings) :
    ∃ s, (∀ u, Ends (.start a w) u ↔ u = s) ∧
      (∀ ts, Scheduled s ((Duet.start a w).trace ts) ((Duet.start a w).after ts)) ∧
      ∀ ts : Stream' Turn, Fair ts →
        ∃ k, ((Duet.start a w).after (ts.take k)).output.next.1 = .finish ∧
          received ((Duet.start a w).trace (ts.take k)) = s.sent := by
  obtain ⟨s, story, last, v, -, -, hends⟩ := ends_of_start a w
  have hs : Ends (.start a w) s := (hends s).mpr rfl
  refine ⟨s, hends, fun ts => ?_, fun ts hf => ?_⟩
  · obtain ⟨broke, hpoised⟩ := (settled_after a w ts).poised
    exact
      { received_prefix := (tracks_after ts).received s hs
        whole := received_of_next hs ts
        late := late_trace
        orphaned := fun hc t r => orphaned_turn hc r
        stopped := fun hp => (hpoised.closing (.inr hp)).1 }
  · obtain ⟨n, hn⟩ := stopsIn_start hs
    obtain ⟨k, hk⟩ := hf.finishes unclosed_start hn
    exact ⟨k, hk, received_of_next hs _ (hf.unclosed unclosed_start k).opened hk⟩

end Refetch

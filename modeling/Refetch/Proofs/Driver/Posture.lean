import Refetch.Driver
import Refetch.Proofs.Machine.Move
/-!
# How a driver stands

What a driver holds at each of its points, and where its machine stands then:

* `Machine.Reads`, `Machine.Awaits`   the machine in an attempt, and between two attempts;
* `Machine.Gave`      the machine after it gave a directive;
* `Driver.Poised`     a driver at its point;
* `Driver.Asks`     what a driver asks for, and at which point;
* `Driver.Reacts`     all that a driver does when it is told something, said once;
* `poised_react`      whatever it is told, a driver stays poised.
-/

namespace Refetch

namespace Machine

/-- the machine reads a source, and no retry is pending -/
structure Reads (m : Machine) : Prop where
  reading : m.isReading = true
  idle : m.retryPending = false

/-- the machine stands between two attempts, and the next one may begin -/
structure Awaits (m : Machine) : Prop where
  retrying : m.phase = .retrying
  within : m.overflowed = false

/-- the machine after it gave a directive -/
def Gave (m : Machine) : Directive → Prop
  | .nothing => m.Reads
  | .forward _ => m.Reads
  | .finish _ => m.phase = .completed
  | .fail _ => m.phase = .failed
  | .retry _ _ => m.Awaits

theorem Reads.open {m : Machine} (h : m.Reads) : m.phase.isTerminal = false :=
  open_of_isReading h.reading

theorem Awaits.open {m : Machine} (h : m.Awaits) : m.phase.isTerminal = false := by
  rw [h.retrying]
  rfl

theorem isTerminal_cancel (m : Machine) : m.cancel.phase.isTerminal = true := by
  unfold cancel
  split
  · assumption
  · rfl

theorem fail_open {m : Machine} (h : m.phase.isTerminal = false) (e : StageError) :
    m.fail e = (some e, m.failed) :=
  if_neg (by rw [h]; exact Bool.false_ne_true)

theorem beginAttempt_awaits {m : Machine} (h : m.Awaits) : m.beginAttempt = (true, m.renewed) :=
  if_neg (by rw [h.retrying, h.within]; exact Bool.false_ne_true)

end Machine

open Machine

/-- the directive leaves the attempt under way -/
def Directive.goesOn : Directive → Bool
  | .nothing => true
  | .forward _ => true
  | _ => false

theorem Machine.Gave.reads {m : Machine} {r : Directive} (h : m.Gave r) (hr : r.goesOn = true) :
    m.Reads := by
  cases r <;> first | exact h | cases hr

section
variable {m : Machine}

theorem gave_onChunk (h : m.Reads) (c : Bytes) :
    (m.onChunk c).2.Gave (m.onChunk c).1 ∧ (m.onChunk c).1.goesOn = true := by
  have hm : Move m (.chunk c) (.directive (m.onChunk c).1) (m.onChunk c).2 :=
    move_chunk m c h.reading
  generalize (m.onChunk c).1 = r at hm
  generalize (m.onChunk c).2 = m' at hm
  cases hm with
  | hold c hp fits => exact ⟨⟨h.reading, h.idle⟩, rfl⟩
  | outgrow c hp beyond => exact ⟨⟨rfl, h.idle⟩, rfl⟩
  | pass c hp => exact ⟨⟨h.reading, h.idle⟩, rfl⟩
  | refuse op hr => exact ⟨h, rfl⟩

theorem gave_onEnd (h : m.Reads) :
    m.onEnd.2.Gave m.onEnd.1 ∧ m.onEnd.1 = .finish m.held := by
  have hm : Move m .finish (.directive m.onEnd.1) m.onEnd.2 := move_finish m h.reading
  generalize m.onEnd.1 = r at hm
  generalize m.onEnd.2 = m' at hm
  cases hm with
  | finish hr => exact ⟨rfl, rfl⟩
  | refuse op hr => simp [isRefused, h.reading] at hr

theorem gave_onFailure (h : m.Reads) (cause : Cause) (aborted : Bool) :
    (m.onFailure cause aborted).2.Gave (m.onFailure cause aborted).1 ∧
      ((∃ e, (m.onFailure cause aborted).1 = .fail e) ∨
        ∃ n, (m.onFailure cause aborted).1 = .retry n cause) := by
  have hm : Move m (.failure cause aborted) (.directive (m.onFailure cause aborted).1)
    (m.onFailure cause aborted).2 := move_failure m cause aborted h.open h.idle
  generalize (m.onFailure cause aborted).1 = r at hm
  generalize (m.onFailure cause aborted).2 = m' at hm
  cases hm with
  | giveUp cause aborted e ho idle why => exact ⟨rfl, .inl ⟨e, rfl⟩⟩
  | retry cause ho idle fits left => exact ⟨⟨rfl, fits⟩, .inr ⟨_, rfl⟩⟩
  | refuse op hr => simp [isRefused, h.open, h.idle] at hr

end

/-! ## points -/

def Answer.isBreakdown {σ : Type} : Answer σ → Bool
  | .brokeDown _ => true
  | _ => false

namespace Driver

variable {σ : Type}

/-- what a driver holds at its point, and where its machine stands; `broke` says that a
collaborator broke down -/
def Poised (broke : Bool) (d : Driver σ) : Prop :=
  match d.point with
  | .reading => d.source.isSome = true ∧ d.machine.Reads
  | .loggingOverflow r => d.source.isSome = true ∧ d.machine.Gave r ∧ r.goesOn = true
  | .sending _ _ false => d.source.isSome = true ∧ d.machine.Reads
  | .sending _ _ true => d.source.isSome = true ∧ d.machine.phase = .completed
  | .loggingRetry _ => d.source = none ∧ d.machine.Awaits
  | .pausing => d.source = none ∧ d.machine.Awaits
  | .dispatching => d.source = none ∧ d.machine.Awaits
  | .failing _ => d.source = none ∧ (d.machine.phase.isTerminal = true ∨ broke = true)
  | .stopped => d.source = none ∧ (d.machine.phase.isTerminal = true ∨ broke = true)

section
variable (broke : Bool) (d : Driver σ)

theorem poised_quit : d.quit.1.Poised broke := ⟨rfl, .inl (isTerminal_cancel d.machine)⟩

theorem poised_terminate (e : StageError) : (d.terminate e).1.Poised broke := by
  cases ht : d.machine.phase.isTerminal with
  | true =>
    have hf : d.machine.fail e = (none, d.machine) := if_pos ht
    rw [terminate, hf]
    exact ⟨rfl, .inl ht⟩
  | false =>
    rw [terminate, fail_open ht]
    exact ⟨rfl, .inl rfl⟩

theorem poised_emit (cs : List Bytes) (last : Bool) (hs : d.source.isSome = true)
    (hm : if last then d.machine.phase = .completed else d.machine.Reads) :
    (d.emit cs last).1.Poised broke := by
  unfold emit
  cases worthSending cs with
  | cons c rest => cases last <;> exact ⟨hs, hm⟩
  | nil =>
    cases last with
    | true =>
      have hp : d.machine.phase = .completed := hm
      have ht : d.machine.phase.isTerminal = true := by rw [hp]; rfl
      exact ⟨rfl, .inl ht⟩
    | false => exact ⟨hs, hm⟩

theorem poised_apply (r : Directive) (hs : d.source.isSome = true) (hm : d.machine.Gave r) :
    (d.apply r).1.Poised broke := by
  cases r with
  | nothing => exact ⟨hs, hm⟩
  | forward cs => exact poised_emit broke d cs false hs hm
  | finish cs => exact poised_emit broke d cs true hs hm
  | fail e =>
    have hp : d.machine.phase = .failed := hm
    have ht : d.machine.phase.isTerminal = true := by rw [hp]; rfl
    exact ⟨rfl, .inl ht⟩
  | retry n cause => exact ⟨rfl, hm⟩

theorem poised_onChunk (c : Bytes) (hs : d.source.isSome = true) (hm : d.machine.Reads) :
    (d.onChunk c).1.Poised broke := by
  obtain ⟨hgave, hon⟩ := gave_onChunk hm c
  unfold onChunk
  dsimp only
  split
  · exact ⟨hs, hgave, hon⟩
  · exact poised_apply broke _ _ hs hgave

theorem poised_onFailure (now : Moment) (cause : Cause) (hs : d.source.isSome = true)
    (hm : d.machine.Reads) : (d.onFailure now cause).1.Poised broke := by
  unfold onFailure
  split
  · exact poised_quit broke d
  · exact poised_apply broke _ _ hs (gave_onFailure hm cause now.aborted).1

theorem poised_onEnd (now : Moment) (hs : d.source.isSome = true) (hm : d.machine.Reads) :
    (d.onEnd now).1.Poised broke := by
  have hend := poised_apply broke { d with machine := d.machine.onEnd.2 } d.machine.onEnd.1 hs
    (gave_onEnd hm).1
  unfold onEnd
  split
  · split
    · exact poised_onFailure broke d now _ hs hm
    · exact hend
  · exact hend

theorem poised_onResponse (r : Response σ) (hm : d.machine.Awaits) :
    (d.onResponse r).1.Poised broke := by
  unfold onResponse
  split
  · rw [promote, beginAttempt_awaits hm]
    exact ⟨rfl, rfl, rfl⟩
  · exact poised_terminate broke d _

end

section
variable {broke : Bool} {d : Driver σ}

theorem Poised.reading (h : d.Poised broke) (hp : d.point = .reading) :
    d.source.isSome = true ∧ d.machine.Reads := by
  rw [Poised, hp] at h
  exact h

/-- a driver that reads may have any other source to read -/
theorem Poised.withSource (h : d.Poised broke) (hp : d.point = .reading) (src : σ) :
    { d with source := some src }.Poised broke := by
  have hreads := (h.reading hp).2
  rw [Poised]
  dsimp only
  rw [hp]
  exact ⟨rfl, hreads⟩

theorem Poised.between (h : d.Poised broke)
    (hp : (∃ cause, d.point = .loggingRetry cause) ∨ d.point = .pausing ∨ d.point = .dispatching) :
    d.source = none ∧ d.machine.Awaits := by
  rcases hp with ⟨cause, hp⟩ | hp | hp <;> rw [Poised, hp] at h <;> exact h

theorem Poised.closing (h : d.Poised broke)
    (hp : (∃ e, d.point = .failing e) ∨ d.point = .stopped) :
    d.source = none ∧ (d.machine.phase.isTerminal = true ∨ broke = true) := by
  rcases hp with ⟨e, hp⟩ | hp <;> rw [Poised, hp] at h <;> exact h

theorem Poised.mono (h : d.Poised broke) (b : Bool) : d.Poised (broke || b) := by
  have hb (hor : d.machine.phase.isTerminal = true ∨ broke = true) :
      d.machine.phase.isTerminal = true ∨ (broke || b) = true := by
    rcases hor with ht | ht
    · exact .inl ht
    · exact .inr (by rw [ht, Bool.true_or])
  unfold Poised at h ⊢
  split <;> simp_all

end

/-! ## what a driver asks for -/

/-- what a driver asks for, and at which point; `closed` says whether its output is closed -/
inductive Asks (d : Driver σ) (closed : Bool) : Ask σ → Prop where
  | item (s : σ) (hp : d.point = .reading) (hs : d.source = some s) (ho : closed = false) :
      Asks d closed (.item s)
  | pause (hp : d.point = .pausing) (ho : closed = false) :
      Asks d closed (.pause d.machine.policy.delay)
  | response (hp : d.point = .dispatching) (ho : closed = false) :
      Asks d closed (.response d.request d.context)
  | word (hc : closed = true) : Asks d closed .word
  | log (r : LogRecord) : Asks d closed (.log r)
  | chunk (c : Bytes) (rest : List Bytes) (last : Bool) (hp : d.point = .sending c rest last) :
      Asks d closed (.room (.ok c))
  | error (e : StageError) (hp : d.point = .failing e) : Asks d closed (.room (.error e))
  /-- it reads no source -/
  | lost (hp : d.point = .reading) (hs : d.source = none) : Asks d closed .nothing
  | done (hp : d.point = .stopped) : Asks d closed .nothing

theorem asks_ask (d : Driver σ) (closed : Bool) : Asks d closed (d.ask closed) := by
  unfold ask
  cases hp : d.point with
  | reading =>
    cases hs : d.source with
    | none => exact .lost hp hs
    | some s =>
      cases closed with
      | false => exact .item s hp hs rfl
      | true => exact .word rfl
  | loggingOverflow r => exact .log _
  | sending c rest last => exact .chunk c rest last hp
  | loggingRetry cause => exact .log _
  | pausing =>
    cases closed with
    | false => exact .pause hp rfl
    | true => exact .word rfl
  | dispatching =>
    cases closed with
    | false => exact .response hp rfl
    | true => exact .word rfl
  | failing e => exact .error e hp
  | stopped => exact .done hp

section
variable {d : Driver σ} {closed : Bool}

theorem ask_item {s : σ} (h : d.ask closed = .item s) :
    d.point = .reading ∧ d.source = some s ∧ closed = false := by
  have hask := asks_ask d closed
  rw [h] at hask
  cases hask with
  | item s hp hs ho => exact ⟨hp, hs, ho⟩

theorem ask_pause {p : Delay} (h : d.ask closed = .pause p) :
    d.point = .pausing ∧ closed = false := by
  have hask := asks_ask d closed
  rw [h] at hask
  cases hask with
  | pause hp ho => exact ⟨hp, ho⟩

theorem ask_response {r : Request} {c : Context} (h : d.ask closed = .response r c) :
    d.point = .dispatching ∧ closed = false := by
  have hask := asks_ask d closed
  rw [h] at hask
  cases hask with
  | response hp ho => exact ⟨hp, ho⟩

theorem ask_word (h : d.ask closed = .word) : closed = true := by
  have hask := asks_ask d closed
  rw [h] at hask
  cases hask with
  | word hc => exact hc

theorem ask_room {i : Item} (h : d.ask closed = .room i) :
    (∃ c rest last, d.point = .sending c rest last ∧ i = .ok c) ∨
      ∃ e, d.point = .failing e ∧ i = .error e := by
  have hask := asks_ask d closed
  rw [h] at hask
  cases hask with
  | chunk c rest last hp => exact .inl ⟨c, rest, last, hp, rfl⟩
  | error e hp => exact .inr ⟨e, hp, rfl⟩

/-- a poised driver asks for nothing more only when it is done -/
theorem ask_nothing {broke : Bool} (hd : d.Poised broke) (h : d.ask closed = .nothing) :
    d.point = .stopped := by
  have hask := asks_ask d closed
  rw [h] at hask
  cases hask with
  | lost hp hs =>
    have hsome := (hd.reading hp).1
    rw [hs] at hsome
    cases hsome
  | done hp => exact hp

end

/-! ## what a driver does when it is told something -/

def isLogging (d : Driver σ) : Prop :=
  (∃ r, d.point = .loggingOverflow r) ∨ ∃ cause, d.point = .loggingRetry cause

/-- the driver waits for a collaborator that a consumer's close may come before -/
def isOpenEnded (d : Driver σ) : Prop :=
  d.point = .reading ∨ d.point = .pausing ∨ d.point = .dispatching

/-- what a driver that is told `a` does: its next state, and the source that it lets go -/
inductive Reacts (now : Moment) (d : Driver σ) : Answer σ → Driver σ × Option σ → Prop where
  | closed (hp : d.isOpenEnded) : Reacts now d .closed d.quit
  | chunk (c : Bytes) (hp : d.point = .reading) : Reacts now d (.chunk c) (d.onChunk c)
  | ended (hp : d.point = .reading) : Reacts now d .ended (d.onEnd now)
  | failed (f : Failure) (hp : d.point = .reading) :
      Reacts now d (.failed f) (d.onFailure now f.normalize)
  | brokeDown (m : String) (hp : d.isLogging ∨ d.isOpenEnded) :
      Reacts now d (.brokeDown m) (d.letGo (.failing (.internal m)))
  | overflowTaken (r : Directive) (hp : d.point = .loggingOverflow r) :
      Reacts now d (.logged none) (d.apply r)
  | retryTaken (cause : Cause) (hp : d.point = .loggingRetry cause) :
      Reacts now d (.logged none)
        (d.goto (if d.machine.policy.delay.isZero then .dispatching else .pausing))
  | logRefused (c : Cause) (hp : d.isLogging) :
      Reacts now d (.logged (some c)) (d.terminate (.log c))
  | sent (c : Bytes) (rest : List Bytes) (last : Bool) (hp : d.point = .sending c rest last) :
      Reacts now d .sent (d.emit rest last)
  | refused (c : Bytes) (rest : List Bytes) (last : Bool) (hp : d.point = .sending c rest last) :
      Reacts now d .refused d.quit
  | elapsed (hp : d.point = .pausing) : Reacts now d .elapsed (d.goto .dispatching)
  /-- a response that comes after the close -/
  | orphaned (r : Response σ) (hp : d.point = .dispatching) (hc : now.closed = true) :
      Reacts now d (.responded (.ok r)) (d.quit.1, r.body)
  | responded (r : Response σ) (hp : d.point = .dispatching) (ho : now.closed = false) :
      Reacts now d (.responded (.ok r)) (d.onResponse r)
  | unanswered (f : Failure) (hp : d.point = .dispatching) (hc : now.closed = true) :
      Reacts now d (.responded (.error f)) d.quit
  | undispatched (f : Failure) (hp : d.point = .dispatching) (ho : now.closed = false) :
      Reacts now d (.responded (.error f)) (d.terminate (.dispatch f.normalize))
  | errorSent (e : StageError) (hp : d.point = .failing e) : Reacts now d .sent (d.goto .stopped)
  | errorRefused (e : StageError) (hp : d.point = .failing e) :
      Reacts now d .refused (d.goto .stopped)
  /-- the answer is to nothing that the driver waits for -/
  | deaf (a : Answer σ) (h : ∀ o, d.point = .dispatching → a ≠ .responded o) :
      Reacts now d a (d, none)

theorem reacts_react (now : Moment) (d : Driver σ) (a : Answer σ) :
    Reacts now d a (d.react now a) := by
  unfold react
  split
  case h_1 hp => exact .closed (.inl hp)
  case h_2 c hp => exact .chunk c hp
  case h_3 hp => exact .ended hp
  case h_4 f hp => exact .failed f hp
  case h_5 m hp => exact .brokeDown m (.inr (.inl hp))
  case h_6 r hp => exact .overflowTaken r hp
  case h_7 r c hp => exact .logRefused c (.inl ⟨r, hp⟩)
  case h_8 r m hp => exact .brokeDown m (.inl (.inl ⟨r, hp⟩))
  case h_9 c rest last hp => exact .sent c rest last hp
  case h_10 c rest last hp => exact .refused c rest last hp
  case h_11 cause hp => exact .retryTaken cause hp
  case h_12 cause c hp => exact .logRefused c (.inr ⟨cause, hp⟩)
  case h_13 cause m hp => exact .brokeDown m (.inl (.inr ⟨cause, hp⟩))
  case h_14 hp => exact .closed (.inr (.inl hp))
  case h_15 hp => exact .elapsed hp
  case h_16 m hp => exact .brokeDown m (.inr (.inr (.inl hp)))
  case h_17 hp => exact .closed (.inr (.inr hp))
  case h_18 r hp =>
    cases hc : now.closed with
    | true => exact .orphaned r hp hc
    | false => exact .responded r hp hc
  case h_19 f hp =>
    cases hc : now.closed with
    | true => exact .unanswered f hp hc
    | false => exact .undispatched f hp hc
  case h_20 m hp => exact .brokeDown m (.inr (.inr (.inr hp)))
  case h_21 e hp => exact .errorSent e hp
  case h_22 e hp => exact .errorRefused e hp
  case h_23 =>
    refine .deaf _ fun o hp ha => ?_
    rcases o with f | r <;> simp_all

/-- whatever it is told, a driver stays poised -/
theorem poised_react {broke : Bool} {d : Driver σ} (h : d.Poised broke) (now : Moment)
    (a : Answer σ) : (d.react now a).1.Poised (broke || a.isBreakdown) := by
  have hr := reacts_react now d a
  generalize d.react now a = x at hr
  cases hr with
  | closed hp => exact poised_quit _ d
  | chunk c hp => exact poised_onChunk _ d c (h.reading hp).1 (h.reading hp).2
  | ended hp => exact poised_onEnd _ d now (h.reading hp).1 (h.reading hp).2
  | failed f hp => exact poised_onFailure _ d now _ (h.reading hp).1 (h.reading hp).2
  | brokeDown m hp => exact ⟨rfl, .inr (Bool.or_true broke)⟩
  | overflowTaken r hp =>
    rw [Poised, hp] at h
    exact poised_apply _ d r h.1 h.2.1
  | retryTaken cause hp =>
    have hb := h.between (.inl ⟨cause, hp⟩)
    unfold goto
    split <;> exact hb
  | logRefused c hp => exact poised_terminate _ d _
  | sent c rest last hp =>
    rw [Poised, hp] at h
    cases last with
    | true => exact poised_emit _ d rest true h.1 h.2
    | false => exact poised_emit _ d rest false h.1 h.2
  | refused c rest last hp => exact poised_quit _ d
  | elapsed hp => exact h.between (.inr (.inl hp))
  | orphaned r hp hc => exact poised_quit _ d
  | responded r hp ho => exact poised_onResponse _ d r (h.between (.inr (.inr hp))).2
  | unanswered f hp hc => exact poised_quit _ d
  | undispatched f hp ho => exact poised_terminate _ d _
  | errorSent e hp => exact (h.mono false).closing (.inl ⟨e, hp⟩)
  | errorRefused e hp => exact (h.mono false).closing (.inl ⟨e, hp⟩)
  | deaf a hd => exact h.mono _

end Driver

end Refetch

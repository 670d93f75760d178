import Refetch.Failure.Inspect
import Refetch.Proofs.Stage.Relay
import Mathlib.Data.Option.Basic
import Mathlib.Tactic.SplitIfs
/-!
# A driver behind other stages

Two drivers with the same machine, one over the transport and one whose bodies and responses come
through `n` marked stages.  They differ in the failures that they were told of:

* `Cause.Behind`, `StageError.Behind`   the same failure, wrapped `n` times where a body or the
                                        transport raised it;
* `LogRecord.Behind`, `Item.Behind`     a record, and an item of the output, that tell of it;
* `Driver.Behind`                       the two drivers;
* `Answer.Behind`                       what they are told;
* `Driver.Behind.ask`, `react`           they ask for the same, and stay so whatever it comes to;
* `Program.Behind`                      two programs that make the same calls;
* `Stage.execute_behind`                a stage over others, and the stage alone.

What is left of `Behind` is always the thing without the inner stages, what is right of it the same
thing with `n` of them.
-/

namespace Refetch

/-- the cause of a failed attempt, with `n` stages more -/
inductive Cause.Behind (n : Nat) : Cause → Cause → Prop where
  | own (received promised : Nat) :
      Behind n (prematureEnd received promised) (prematureEnd received promised)
  /-- raised by a body that the stages passed through -/
  | raised (c : Cause) : Behind n c (c.relayed .stream n)

/-- an error of the outermost stage, with `n` stages more -/
inductive StageError.Behind (n : Nat) : StageError → StageError → Prop where
  /-- neither the transport nor a body raised it -/
  | same (e : StageError) (h : e.cause? = none) : Behind n e e
  | log (c : Cause) : Behind n (.log c) (.log c)
  | dispatch (c : Cause) : Behind n (.dispatch c) (.dispatch (c.relayed .dispatch n))
  | stream (c : Cause) : Behind n (.stream c) (.stream (c.relayed .stream n))
  | overflow {c c' : Cause} (h : c.Behind n c') : Behind n (.overflow c) (.overflow c')
  | exhausted (k : Nat) {c c' : Cause} (h : c.Behind n c') :
      Behind n (.exhausted k c) (.exhausted k c')
  | aborted {c c' : Cause} (h : c.Behind n c') : Behind n (.aborted c) (.aborted c')

inductive LogRecord.Behind (n : Nat) : LogRecord → LogRecord → Prop where
  /-- it tells of no failure -/
  | same (r : LogRecord) (h : r.error = none) : Behind n r r
  | error (r : LogRecord) {c c' : Cause} (h : c.Behind n c') :
      Behind n { r with error := some c.message } { r with error := some c'.message }

inductive Item.Behind (n : Nat) : Item → Item → Prop where
  | chunk (c : Bytes) : Behind n (.ok c) (.ok c)
  | error {e e' : StageError} (h : e.Behind n e') : Behind n (.error e) (.error e')

inductive Feed.Behind (n : Nat) : Feed → Feed → Prop where
  | source (k : SourceId) : Behind n (.source k) ((Feed.source k).relayed n)

/-- an outcome as the transport gives it: a body is a source -/
def Bare (o : Outcome) : Prop :=
  ∀ resp, o = .ok resp → ∀ f, resp.body = some f → ∃ k, f = .source k

theorem StageError.Behind.name {n : Nat} {e e' : StageError} (h : e.Behind n e') :
    e'.name = e.name := by
  cases h <;> rfl

theorem LogRecord.Behind.event {n : Nat} {r r' : LogRecord} (h : r.Behind n r') :
    r'.event = r.event := by
  cases h <;> rfl

/-- the body of a bare response, handed on -/
theorem Bare.body {n : Nat} {resp : Response Feed} (h : Bare (.ok resp)) :
    Option.Rel (Feed.Behind n) resp.body (resp.body.map (Feed.relayed n)) := by
  cases hb : resp.body with
  | none => exact .none
  | some f =>
    obtain ⟨k, rfl⟩ := h resp rfl f hb
    exact .some (.source k)

/-! ## the machine -/

inductive Directive.Behind (n : Nat) : Directive → Directive → Prop where
  | nothing : Behind n .nothing .nothing
  | forward (cs : List Bytes) : Behind n (.forward cs) (.forward cs)
  | finish (cs : List Bytes) : Behind n (.finish cs) (.finish cs)
  | fail {e e' : StageError} (h : e.Behind n e') : Behind n (.fail e) (.fail e')
  | retry (k : Nat) {c c' : Cause} (h : c.Behind n c') : Behind n (.retry k c) (.retry k c')

namespace Machine

theorem onChunk_behind (n : Nat) (m : Machine) (c : Bytes) :
    (m.onChunk c).1.Behind n (m.onChunk c).1 := by
  unfold onChunk
  split
  · exact .forward _
  · dsimp only
    split
    · exact .forward _
    · exact .nothing
  · exact .nothing

theorem onEnd_behind (n : Nat) (m : Machine) : m.onEnd.1.Behind n m.onEnd.1 := by
  unfold onEnd
  split
  · exact .finish _
  · exact .finish _
  · exact .nothing

/-- what a machine does about a failure does not depend on its cause -/
theorem onFailure_behind {n : Nat} (m : Machine) {c c' : Cause} (h : c.Behind n c')
    (aborted : Bool) :
    (m.onFailure c aborted).1.Behind n (m.onFailure c' aborted).1 ∧
      (m.onFailure c' aborted).2 = (m.onFailure c aborted).2 := by
  unfold onFailure
  split_ifs
  · exact ⟨.nothing, rfl⟩
  · exact ⟨.fail (.overflow h), rfl⟩
  · exact ⟨.fail (.aborted h), rfl⟩
  · exact ⟨.fail (.exhausted _ h), rfl⟩
  · exact ⟨.retry _ h, rfl⟩

end Machine

/-! ## the two drivers -/

inductive Point.Behind (n : Nat) : Point → Point → Prop where
  | reading : Behind n .reading .reading
  | loggingOverflow {r r' : Directive} (h : r.Behind n r') :
      Behind n (.loggingOverflow r) (.loggingOverflow r')
  | sending (c : Bytes) (rest : List Bytes) (last : Bool) :
      Behind n (.sending c rest last) (.sending c rest last)
  | loggingRetry {c c' : Cause} (h : c.Behind n c') : Behind n (.loggingRetry c) (.loggingRetry c')
  | pausing : Behind n .pausing .pausing
  | dispatching : Behind n .dispatching .dispatching
  | failing {e e' : StageError} (h : e.Behind n e') : Behind n (.failing e) (.failing e')
  | stopped : Behind n .stopped .stopped

/-- a driver under the mark, with `n` stages more -/
inductive Driver.Behind (n : Nat) : Driver Feed → Driver Feed → Prop where
  | intro (r : Request) {c : Context} (m : Machine) {s s' : Option Feed} (promised : Option Nat)
      {p p' : Point} (active : c.active = true) (source : Option.Rel (Feed.Behind n) s s')
      (point : p.Behind n p') : Behind n ⟨r, c, m, s, promised, p⟩ ⟨r, c, m, s', promised, p'⟩

inductive Answer.Behind (n : Nat) : Answer Feed → Answer Feed → Prop where
  | closed : Behind n .closed .closed
  | chunk (c : Bytes) : Behind n (.chunk c) (.chunk c)
  | ended : Behind n .ended .ended
  | failed (f : Failure) : Behind n (.failed f) (.failed (f.relayed .stream n))
  | logged (refusal : Option Cause) : Behind n (.logged refusal) (.logged refusal)
  | sent : Behind n .sent .sent
  | refused : Behind n .refused .refused
  | elapsed : Behind n .elapsed .elapsed
  | responded (o : Outcome) (h : Bare o) :
      Behind n (.responded o) (.responded (relayedOutcome n o))
  | brokeDown (message : String) : Behind n (.brokeDown message) (.brokeDown message)

inductive Ask.Behind (n : Nat) : Ask Feed → Ask Feed → Prop where
  | item {s s' : Feed} (h : s.Behind n s') : Behind n (.item s) (.item s')
  | log {r r' : LogRecord} (h : r.Behind n r') : Behind n (.log r) (.log r')
  | room {i i' : Item} (h : Item.Behind n i i') : Behind n (.room i) (.room i')
  | pause (d : Delay) : Behind n (.pause d) (.pause d)
  | response (r : Request) (c : Context) (active : c.active = true) :
      Behind n (.response r c) (.response r c)
  | word : Behind n .word .word
  | nothing : Behind n .nothing .nothing

namespace Driver

variable {n : Nat} {d d' : Driver Feed}

theorem Behind.request (h : d.Behind n d') : d'.request = d.request := by
  cases h
  rfl

theorem Behind.context (h : d.Behind n d') : d'.context = d.context := by
  cases h
  rfl

theorem Behind.machine (h : d.Behind n d') : d'.machine = d.machine := by
  cases h
  rfl

theorem Behind.promised (h : d.Behind n d') : d'.promised = d.promised := by
  cases h
  rfl

theorem Behind.point (h : d.Behind n d') : d.point.Behind n d'.point := by
  cases h
  assumption

theorem Behind.retryRecord (h : d.Behind n d') {c c' : Cause} (hc : c.Behind n c') :
    (d.retryRecord c).Behind n (d'.retryRecord c') := by
  have hr : d'.retryRecord c' = { d.retryRecord c with error := some c'.message } := by
    cases h
    rfl
  rw [hr]
  exact .error (d.retryRecord c) hc

theorem Behind.ask (h : d.Behind n d') (closed : Bool) :
    (d.ask closed).Behind n (d'.ask closed) := by
  have hrecord {c c' : Cause} (hc : c.Behind n c') := h.retryRecord hc
  obtain ⟨r, m, promised, hc, hs, hp⟩ := h
  cases hp with
  | reading =>
    cases hs with
    | none => exact .nothing
    | some hs =>
      cases closed with
      | true => exact .word
      | false => exact .item hs
  | loggingOverflow h => exact .log (.same _ rfl)
  | sending c rest last => exact .room (.chunk c)
  | loggingRetry h => exact .log (hrecord h)
  | pausing =>
    cases closed with
    | true => exact .word
    | false => exact .pause _
  | dispatching =>
    cases closed with
    | true => exact .word
    | false => exact .response _ _ hc
  | failing h => exact .room (.error h)
  | stopped => exact .nothing

theorem Behind.wantsRoom (h : d.Behind n d') : d'.wantsRoom = d.wantsRoom := by
  have hp := h.point
  unfold Driver.wantsRoom
  generalize d.point = p at hp ⊢
  generalize d'.point = p' at hp ⊢
  cases hp <;> rfl

/-! ## the turn of a driver -/

/-- two drivers after a turn, with what they let go -/
def Turned (n : Nat) (x x' : Driver Feed × Option Feed) : Prop :=
  x.1.Behind n x'.1 ∧ Option.Rel (Feed.Behind n) x.2 x'.2

theorem Behind.withMachine (h : d.Behind n d') (m : Machine) :
    Behind n { d with machine := m } { d' with machine := m } := by
  obtain ⟨r, _, promised, hc, hs, hp⟩ := h
  exact .intro r m promised hc hs hp

theorem Behind.goto (h : d.Behind n d') {p p' : Point} (hp : p.Behind n p') :
    Turned n (d.goto p) (d'.goto p') := by
  obtain ⟨r, m, promised, hc, hs, -⟩ := h
  exact ⟨.intro r m promised hc hs hp, .none⟩

theorem Behind.letGo (h : d.Behind n d') {p p' : Point} (hp : p.Behind n p') :
    Turned n (d.letGo p) (d'.letGo p') := by
  obtain ⟨r, m, promised, hc, hs, -⟩ := h
  exact ⟨.intro r m none hc .none hp, hs⟩

theorem Behind.quit (h : d.Behind n d') : Turned n d.quit d'.quit := by
  unfold Driver.quit
  rw [h.machine]
  exact (h.withMachine _).letGo .stopped

theorem Behind.terminate (h : d.Behind n d') {e e' : StageError} (he : e.Behind n e') :
    Turned n (d.terminate e) (d'.terminate e') := by
  unfold Driver.terminate Machine.fail
  rw [h.machine]
  split
  · exact (h.withMachine _).letGo .stopped
  · exact (h.withMachine _).letGo (.failing he)

theorem Behind.emit (h : d.Behind n d') (cs : List Bytes) (last : Bool) :
    Turned n (d.emit cs last) (d'.emit cs last) := by
  unfold Driver.emit
  cases worthSending cs with
  | cons c rest => exact h.goto (.sending c rest last)
  | nil =>
    cases last with
    | true => exact h.letGo .stopped
    | false => exact h.goto .reading

theorem Behind.apply (h : d.Behind n d') {r r' : Directive} (hr : r.Behind n r') :
    Turned n (d.apply r) (d'.apply r') := by
  cases hr with
  | nothing => exact h.goto .reading
  | forward cs => exact h.emit cs false
  | finish cs => exact h.emit cs true
  | fail he => exact h.letGo (.failing he)
  | retry k hc => exact h.letGo (.loggingRetry hc)

theorem Behind.onChunk (h : d.Behind n d') (c : Bytes) :
    Turned n (d.onChunk c) (d'.onChunk c) := by
  unfold Driver.onChunk
  rw [h.machine]
  have hr := d.machine.onChunk_behind n c
  dsimp only
  split
  · exact (h.withMachine _).goto (.loggingOverflow hr)
  · exact (h.withMachine _).apply hr

theorem Behind.onFailure (h : d.Behind n d') (now : Moment) {c c' : Cause} (hc : c.Behind n c') :
    Turned n (d.onFailure now c) (d'.onFailure now c') := by
  unfold Driver.onFailure
  rw [h.machine]
  obtain ⟨hr, hm⟩ := d.machine.onFailure_behind hc now.aborted
  split
  · exact h.quit
  · dsimp only
    rw [hm]
    exact (h.withMachine _).apply hr

theorem Behind.onEnd (h : d.Behind n d') (now : Moment) :
    Turned n (d.onEnd now) (d'.onEnd now) := by
  have hend := (h.withMachine d.machine.onEnd.2).apply (d.machine.onEnd_behind n)
  rw [h.promised] at hend
  unfold Driver.onEnd
  rw [h.machine, h.promised]
  split
  · split
    · exact h.onFailure now (.own _ _)
    · exact hend
  · exact hend

theorem Behind.promote (h : d.Behind n d') {f f' : Feed} (hf : f.Behind n f')
    (promised : Option Nat) : Turned n (d.promote f promised) (d'.promote f' promised) := by
  obtain ⟨r, m, _, hc, hs, hp⟩ := h
  unfold Driver.promote
  dsimp only
  split
  · exact ⟨.intro r _ promised hc (.some hf) .reading, .none⟩
  · exact ⟨.intro r _ _ hc hs .stopped, .some hf⟩

theorem Behind.onResponse (h : d.Behind n d') (resp : Response Feed) {body' : Option Feed}
    (hb : Option.Rel (Feed.Behind n) resp.body body') :
    Turned n (d.onResponse resp) (d'.onResponse { resp with body := body' }) := by
  obtain ⟨ok, status, fields, body⟩ := resp
  have hdeclined : Turned n
      ((d.terminate (.retryFailed d.request.url.text status (unusableReason ok))).1, body)
      ((d'.terminate (.retryFailed d'.request.url.text status (unusableReason ok))).1, body') := by
    rw [h.request]
    exact ⟨(h.terminate (.same _ rfl)).1, hb⟩
  unfold Driver.onResponse
  cases ok with
  | false => exact hdeclined
  | true =>
    cases hb with
    | none => exact hdeclined
    | some hf =>
      change Turned n (d.promote _ (Http.expectedLength d.request.method status fields))
        (d'.promote _ (Http.expectedLength d'.request.method status fields))
      rw [h.request]
      exact h.promote hf _

/-- a response comes to two drivers that wait for it -/
theorem Behind.onResponded (h : d.Behind n d') (now : Moment) {o : Outcome} (ho : Bare o)
    (hp : d.point = .dispatching) (hp' : d'.point = .dispatching) :
    Turned n (d.react now (.responded o)) (d'.react now (.responded (relayedOutcome n o))) := by
  unfold react
  rw [hp, hp']
  cases o with
  | ok resp =>
    dsimp only [relayedOutcome, Response.relayed]
    split
    · exact ⟨h.quit.1, ho.body⟩
    · exact h.onResponse resp ho.body
  | error f =>
    dsimp only [relayedOutcome]
    split
    · exact h.quit
    · rw [Failure.normalize_relayed]
      exact h.terminate (.dispatch _)

/-- the two drivers stay as they are to each other, whatever they are told -/
theorem Behind.react (h : d.Behind n d') (now : Moment) {a a' : Answer Feed} (ha : a.Behind n a') :
    Turned n (d.react now a) (d'.react now a') := by
  have hdeaf : Turned n (d, none) (d', none) := ⟨h, .none⟩
  have hbroken (m : String) : Turned n (d.letGo (.failing (.internal m)))
      (d'.letGo (.failing (.internal m))) := h.letGo (.failing (.same _ rfl))
  have hm := h.machine
  have hp := h.point
  unfold Driver.react
  generalize hd : d.point = p at hp
  generalize hd' : d'.point = p' at hp
  cases hp with
  | reading =>
    cases ha with
    | closed => exact h.quit
    | chunk c => exact h.onChunk c
    | ended => exact h.onEnd now
    | failed f =>
      dsimp only
      rw [Failure.normalize_relayed]
      exact h.onFailure now (.raised _)
    | brokeDown m => exact hbroken m
    | _ => exact hdeaf
  | loggingOverflow hr =>
    cases ha with
    | logged refusal =>
      cases refusal with
      | none => exact h.apply hr
      | some c => exact h.terminate (.log c)
    | brokeDown m => exact hbroken m
    | _ => exact hdeaf
  | sending c rest last =>
    cases ha with
    | sent => exact h.emit rest last
    | refused => exact h.quit
    | _ => exact hdeaf
  | loggingRetry hc =>
    cases ha with
    | logged refusal =>
      cases refusal with
      | none =>
        dsimp only
        rw [hm]
        split
        · exact h.goto .dispatching
        · exact h.goto .pausing
      | some c => exact h.terminate (.log c)
    | brokeDown m => exact hbroken m
    | _ => exact hdeaf
  | pausing =>
    cases ha with
    | closed => exact h.quit
    | elapsed => exact h.goto .dispatching
    | brokeDown m => exact hbroken m
    | _ => exact hdeaf
  | dispatching =>
    cases ha with
    | closed => exact h.quit
    | responded o ho =>
      have hresp := h.onResponded now ho hd hd'
      unfold Driver.react at hresp
      rw [hd, hd'] at hresp
      exact hresp
    | brokeDown m => exact hbroken m
    | _ => exact hdeaf
  | failing he =>
    cases ha with
    | sent => exact h.goto .stopped
    | refused => exact h.goto .stopped
    | _ => exact hdeaf
  | stopped => cases ha <;> exact hdeaf

end Driver

/-! ## programs -/

inductive Body.Behind (n : Nat) : Body → Body → Prop where
  | wrapped (out : OutputId) : Behind n (.wrapped out) (.wrapped out)
  | unwrapped {f f' : Feed} (h : f.Behind n f') : Behind n (.unwrapped f) (.unwrapped f')

inductive Delivery.Behind (n : Nat) : Delivery → Delivery → Prop where
  | intro (ok : Bool) (status : Http.Status) (fields : Http.Fields) {b b' : Option Body}
      (body : Option.Rel (Body.Behind n) b b') :
      Behind n ⟨ok, status, fields, b⟩ ⟨ok, status, fields, b'⟩

inductive Executed.Behind (n : Nat) : Executed → Executed → Prop where
  | ok {d d' : Delivery} (h : d.Behind n d') : Behind n (.ok d) (.ok d')
  | error {e e' : StageError} (h : e.Behind n e') : Behind n (.error e) (.error e')

inductive Assignment.Behind (n : Nat) : Assignment Feed → Assignment Feed → Prop where
  | intro (p : Policy) (r : Request) {c : Context} {s s' : Feed} (promised : Option Nat)
      (active : c.active = true) (source : s.Behind n s') :
      Behind n ⟨p, r, c, s, promised⟩ ⟨p, r, c, s', promised⟩

/-- what a call comes to, and what is heard of it through `n` stages -/
def Heard (n : Nat) (o o' : Outcome) : Prop := Bare o ∧ o' = relayedOutcome n o

/-- two programs that make the same calls and start drivers behind each other, whatever the
transport comes to -/
inductive Program.Behind (n : Nat) {α β : Type} (R : α → β → Prop) :
    Program α → Program β → Prop where
  | done {a : α} {b : β} (h : R a b) : Behind n R (.done a) (.done b)
  | call (r : Request) (c : Context) {k : Outcome → Program α} {k' : Outcome → Program β}
      (h : ∀ o, Bare o → Behind n R (k o) (k' o)) : Behind n R (.call r c k) (.call r c k')
  | spawn {a a' : Assignment Feed} (ha : a.Behind n a') {k : OutputId → Program α}
      {k' : OutputId → Program β} (h : ∀ out, Behind n R (k out) (k' out)) :
      Behind n R (.spawn a k) (.spawn a' k')

theorem Driver.Behind.start {n : Nat} {a a' : Assignment Feed} (h : a.Behind n a') :
    (Driver.start a).Behind n (Driver.start a') := by
  obtain ⟨p, r, promised, hc, hs⟩ := h
  exact .intro r (.new p) promised hc (.some hs) .reading

theorem Delivery.Behind.body {n : Nat} {d d' : Delivery} (h : d.Behind n d') :
    Option.Rel (Body.Behind n) d.body d'.body := by
  cases h
  assumption

theorem Delivery.Behind.isWrapped {n : Nat} {d d' : Delivery} (h : d.Behind n d') :
    d'.isWrapped = d.isWrapped := by
  have hb := h.body
  unfold Delivery.isWrapped
  generalize d.body = b at hb ⊢
  generalize d'.body = b' at hb ⊢
  cases hb with
  | none => rfl
  | some hb => cases hb <;> rfl

namespace Stage

variable {n : Nat}

/-- under the mark, a call through `n` stages is the call itself -/
theorem dispatch_behind (n : Nat) (r : Request) (c : Context) :
    (dispatch r c).Behind n (Heard n) ((dispatch r c).under n) :=
  .call r c fun _ ho => .done ⟨ho, rfl⟩

theorem passed_behind {resp : Response Feed} (h : Bare (.ok resp)) :
    (Delivery.passed resp).Behind n (.passed (resp.relayed n)) := by
  have hb := h.body (n := n)
  obtain ⟨ok, status, fields, body⟩ := resp
  refine .intro ok status fields ?_
  dsimp only [Response.relayed] at hb ⊢
  generalize body.map (Feed.relayed n) = body' at hb ⊢
  cases hb with
  | none => exact .none
  | some hf => exact .some (.unwrapped hf)

theorem assignment?_behind (p : Policy) (r : Request) {c : Context} (hc : c.active = true)
    {resp : Response Feed} (h : Bare (.ok resp)) :
    Option.Rel (Assignment.Behind n) (assignment? p r c resp)
      (assignment? p r c (resp.relayed n)) := by
  have hb := h.body (n := n)
  obtain ⟨ok, status, fields, body⟩ := resp
  dsimp only [Response.relayed] at hb ⊢
  generalize body.map (Feed.relayed n) = body' at hb ⊢
  cases ok with
  | false => exact .none
  | true =>
    cases hb with
    | none => exact .none
    | some hf =>
      unfold assignment? Response.expectedLength
      dsimp only
      rw [if_pos rfl, if_pos rfl]
      split
      · exact .none
      · exact .some (.intro p r _ hc hf)

theorem deliver_behind (p : Policy) (r : Request) {c : Context} (hc : c.active = true)
    {resp : Response Feed} (h : Bare (.ok resp)) :
    (deliver p r c resp).Behind n (Executed.Behind n) (deliver p r c (resp.relayed n)) := by
  have ha := assignment?_behind (n := n) p r hc h
  unfold deliver
  generalize assignment? p r c resp = a at ha ⊢
  generalize assignment? p r c (resp.relayed n) = a' at ha ⊢
  cases ha with
  | none => exact .done (.ok (passed_behind h))
  | some ha =>
    exact .spawn ha fun out => .done (.ok (.intro _ _ _ (.some (.wrapped out))))

theorem received_behind {o : Outcome} (ho : Bare o) {k : Response Feed → Program Executed}
    (hk : ∀ resp, Bare (.ok resp) → (k resp).Behind n (Executed.Behind n) (k (resp.relayed n))) :
    (received o k).Behind n (Executed.Behind n) (received (relayedOutcome n o) k) := by
  cases o with
  | ok resp => exact hk resp ho
  | error f =>
    have hf : Executed.Behind n (.error (.dispatch f.normalize))
        (.error (.dispatch (f.relayed .dispatch n).normalize)) := by
      rw [Failure.normalize_relayed]
      exact .error (.dispatch _)
    exact .done hf

/-- a stage over others makes the calls of the stage alone, and hands out what it hands out -/
theorem execute_behind (config : Config) (inner : List Config) (r : Request) (c : Context) :
    (execute config dispatch r c).Behind inner.length (Executed.Behind inner.length)
      (execute config (stack inner) r c) := by
  have hstack := fun c' hc => stack_active inner r (c := c') hc
  unfold execute
  cases hc : c.active with
  | true =>
    rw [if_pos rfl, if_pos rfl, hstack c hc]
    refine .call r c fun o ho => received_behind ho fun resp h => ?_
    exact .done (.ok (passed_behind h))
  | false =>
    rw [if_neg Bool.false_ne_true, if_neg Bool.false_ne_true]
    cases Gate.check r config with
    | error e => exact .done (.error (.same _ rfl))
    | ok p =>
      dsimp only
      rw [hstack c.wrapped rfl]
      exact .call r c.wrapped fun o ho => received_behind ho fun resp h => deliver_behind p r rfl h

end Stage

end Refetch

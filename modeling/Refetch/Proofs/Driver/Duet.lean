import Refetch.Proofs.Driver.Session
/-!
# A driver and its consumer

A driver with its output and the consumer at the other end, who move in any order:

* `Turn`        who moves, and what it does;
* `Duet`        the driver, what is left of its surroundings, and the output between the two;
* `Mark`        one thing that is seen of them;
* `Duet.turn`   one turn, with what is seen of it;
* `Duet.after`, `Duet.trace`   a list of turns, which is any schedule;
* `Tells`, `Turned`   all that one turn can do, said once.

When the driver is polled it looks for the consumer's close first, and then asks for what it wants.
What a collaborator answers comes in a turn of its own, so that the consumer may move while the
driver waits, also between its look at the output and the answer.
-/

namespace Refetch

inductive Turn where
  | poll
  /-- the collaborator that the driver waits for answers -/
  | answer
  | take
  /-- the consumer closes the body, or drops it -/
  | close
  deriving DecidableEq

/-- one thing that is seen of a driver and its consumer -/
inductive Mark where
  /-- the driver polled its source, a pause or the transport -/
  | polled (a : Ask Source)
  | told (a : Answer Source)
  | letGo (s : Source)
  | sent (i : Item)
  | took (n : Next)
  | closed

/-- a driver and its consumer, with the output between them -/
structure Duet where
  driver : Driver Source
  around : Surroundings
  output : Output
  waiting : Bool

namespace Duet

def start (a : Assignment Source) (w : Surroundings) : Duet := ⟨.start a, w, {}, false⟩

def now (d : Duet) : Moment := ⟨d.output.closed, d.around.aborts.head⟩

/-- the driver `dr` is told, with `w` left of its surroundings and the output `o` -/
def tell (d : Duet) (dr : Driver Source) (w : Surroundings) (o : Output) (a : Answer Source) :
    List Mark × Duet :=
  (.told a :: (dr.react d.now a).2.toList.map .letGo, ⟨(dr.react d.now a).1, w, o, false⟩)

def await (d : Duet) (a : Ask Source) : List Mark × Duet :=
  ([.polled a], { d with waiting := true })

def tellLogged (d : Duet) : List Mark × Duet :=
  d.tell d.driver { d.around with logs := d.around.logs.tail } d.output
    (Fallible.answer .logged d.around.logs.head)

/-- an item is offered to the output; a full one makes the driver wait -/
def tellOffered (d : Duet) (i : Item) : List Mark × Duet :=
  match d.output.offer i with
  | .taken o =>
    let told := d.tell d.driver d.around o .sent
    (.sent i :: told.1, told.2)
  | .refused => d.tell d.driver d.around d.output .refused
  | .full => ([], d)

def poll (d : Duet) : List Mark × Duet :=
  match d.driver.ask d.output.closed with
  | .item s => d.await (.item s)
  | .pause p => d.await (.pause p)
  | .response r c => d.await (.response r c)
  | .word => d.tell d.driver d.around d.output .closed
  | .log _ => d.tellLogged
  | .room i => d.tellOffered i
  | .nothing => ([], { d with output := d.output.finish })

/-- a source gives its next item; an abort signal matters only at the end of one -/
def tellItem (d : Duet) (s : Source) : List Mark × Duet :=
  match s.chunks with
  | c :: cs => d.tell { d.driver with source := some ⟨cs, s.ending⟩ } d.around d.output (.chunk c)
  | [] =>
    d.tell d.driver { d.around with aborts := d.around.aborts.tail } d.output s.ending.answer

def tellResponse (d : Duet) : List Mark × Duet :=
  d.tell d.driver { d.around with replies := d.around.replies.tail } d.output
    (Fallible.answer .responded d.around.replies.head)

def answer (d : Duet) : List Mark × Duet :=
  if d.waiting then
    match d.driver.ask false with
    | .item s => d.tellItem s
    | .pause _ => d.tell d.driver d.around d.output .elapsed
    | .response _ _ => d.tellResponse
    | _ => ([], d)
  else ([], d)

def turn (d : Duet) : Turn → List Mark × Duet
  | .poll => d.poll
  | .answer => d.answer
  | .take => ([.took d.output.next.1], { d with output := d.output.next.2 })
  | .close => ([.closed], { d with output := d.output.close })

/-! ## schedules -/

def after (d : Duet) (ts : List Turn) : Duet := ts.foldl (fun d t => (d.turn t).2) d

def trace (d : Duet) : List Turn → List Mark
  | [] => []
  | t :: ts => (d.turn t).1 ++ (d.turn t).2.trace ts

theorem after_append (d : Duet) (xs ys : List Turn) :
    d.after (xs ++ ys) = (d.after xs).after ys := by
  rw [after, List.foldl_append]
  rfl

theorem trace_nil (d : Duet) : d.trace [] = [] := rfl

theorem trace_cons (d : Duet) (t : Turn) (ts : List Turn) :
    d.trace (t :: ts) = (d.turn t).1 ++ (d.turn t).2.trace ts := rfl

theorem trace_append (d : Duet) (xs ys : List Turn) :
    d.trace (xs ++ ys) = d.trace xs ++ (d.after xs).trace ys := by
  induction xs generalizing d with
  | nil => rfl
  | cons t xs ih =>
    rw [List.cons_append, trace_cons, trace_cons, ih, List.append_assoc]
    rfl

end Duet

/-! ## what one turn can do -/

open Duet

/-- the driver is told `a` in a turn: what is seen before, the driver that is told, what is left of
its surroundings, and the output -/
inductive Tells (d : Duet) :
    Turn → List Mark → Driver Source → Surroundings → Output → Answer Source → Prop where
  | word (h : d.driver.ask d.output.closed = .word) :
      Tells d .poll [] d.driver d.around d.output .closed
  | logged (r : LogRecord) (h : d.driver.ask d.output.closed = .log r) :
      Tells d .poll [] d.driver { d.around with logs := d.around.logs.tail } d.output
        (Fallible.answer .logged d.around.logs.head)
  | sent (i : Item) (h : d.driver.ask d.output.closed = .room i) (ho : d.output.closed = false)
      (room : d.output.hasRoom = true) :
      Tells d .poll [.sent i] d.driver d.around (d.output.push i) .sent
  | refused (i : Item) (h : d.driver.ask d.output.closed = .room i) (hc : d.output.closed = true) :
      Tells d .poll [] d.driver d.around d.output .refused
  | chunk (c : Bytes) (cs : List Bytes) (e : Ending) (hw : d.waiting = true)
      (h : d.driver.ask false = .item ⟨c :: cs, e⟩) :
      Tells d .answer [] { d.driver with source := some ⟨cs, e⟩ } d.around d.output (.chunk c)
  | ending (e : Ending) (hw : d.waiting = true) (h : d.driver.ask false = .item ⟨[], e⟩) :
      Tells d .answer [] d.driver { d.around with aborts := d.around.aborts.tail } d.output e.answer
  | elapsed (p : Delay) (hw : d.waiting = true) (h : d.driver.ask false = .pause p) :
      Tells d .answer [] d.driver d.around d.output .elapsed
  | responded (r : Request) (c : Context) (hw : d.waiting = true)
      (h : d.driver.ask false = .response r c) :
      Tells d .answer [] d.driver { d.around with replies := d.around.replies.tail } d.output
        (Fallible.answer .responded d.around.replies.head)

/-- the driver waits for a collaborator that the consumer's close may come before -/
def Ask.isPolled : Ask Source → Bool
  | .item _ => true
  | .pause _ => true
  | .response _ _ => true
  | _ => false

/-- one turn, what is seen of it and the two after it -/
inductive Turned (d : Duet) : Turn → List Mark → Duet → Prop where
  | tells {t : Turn} {seen : List Mark} {dr : Driver Source} {w : Surroundings} {o : Output}
      {a : Answer Source} (h : Tells d t seen dr w o a) :
      Turned d t (seen ++ (d.tell dr w o a).1) (d.tell dr w o a).2
  | polled (a : Ask Source) (h : d.driver.ask d.output.closed = a) (hp : a.isPolled = true) :
      Turned d .poll [.polled a] { d with waiting := true }
  | ended (h : d.driver.ask d.output.closed = .nothing) :
      Turned d .poll [] { d with output := d.output.finish }
  | full (i : Item) (h : d.driver.ask d.output.closed = .room i) (ho : d.output.closed = false)
      (hfull : d.output.hasRoom = false) : Turned d .poll [] d
  /-- nobody is waited for -/
  | idle (h : d.waiting = true → (d.driver.ask false).isPolled = false) : Turned d .answer [] d
  | took : Turned d .take [.took d.output.next.1] { d with output := d.output.next.2 }
  | closed : Turned d .close [.closed] { d with output := d.output.close }

theorem turned_offered (d : Duet) (i : Item) (h : d.driver.ask d.output.closed = .room i) :
    Turned d .poll (d.tellOffered i).1 (d.tellOffered i).2 := by
  unfold tellOffered Output.offer
  cases hc : d.output.closed with
  | true => exact .tells (.refused i h hc)
  | false =>
    cases hr : d.output.hasRoom with
    | true => exact .tells (.sent i h hc hr)
    | false => exact .full i h hc hr

theorem turned_poll (d : Duet) : Turned d .poll d.poll.1 d.poll.2 := by
  unfold poll
  cases h : d.driver.ask d.output.closed with
  | item s => exact .polled _ h rfl
  | pause p => exact .polled _ h rfl
  | response r c => exact .polled _ h rfl
  | word => exact .tells (.word h)
  | log r => exact .tells (.logged r h)
  | room i => exact turned_offered d i h
  | nothing => exact .ended h

theorem turned_answer (d : Duet) : Turned d .answer d.answer.1 d.answer.2 := by
  unfold answer
  cases hw : d.waiting with
  | false => exact .idle (by rw [hw]; exact fun h => by cases h)
  | true =>
    have hidle (hp : (d.driver.ask false).isPolled = false) : Turned d .answer [] d :=
      .idle fun _ => hp
    rw [if_pos rfl]
    cases h : d.driver.ask false with
    | item s =>
      obtain ⟨_ | ⟨c, cs⟩, e⟩ := s
      · exact .tells (.ending e hw h)
      · exact .tells (.chunk c cs e hw h)
    | pause p => exact .tells (.elapsed p hw h)
    | response r c => exact .tells (.responded r c hw h)
    | word => exact hidle (by rw [h]; rfl)
    | log r => exact hidle (by rw [h]; rfl)
    | room i => exact hidle (by rw [h]; rfl)
    | nothing => exact hidle (by rw [h]; rfl)

theorem turned_turn (d : Duet) (t : Turn) : Turned d t (d.turn t).1 (d.turn t).2 := by
  cases t with
  | poll => exact turned_poll d
  | answer => exact turned_answer d
  | take => exact .took
  | close => exact .closed

/-- what holds at the start and is kept by every turn holds under every schedule -/
theorem schedule_induction {P : List Mark → Duet → Prop} {d : Duet} (start : P [] d)
    (kept : ∀ tr d t seen d', P tr d → Turned d t seen d' → P (tr ++ seen) d') (ts : List Turn) :
    P (d.trace ts) (d.after ts) := by
  -- a trace grows at its end, so the last turn is taken off
  induction ts using List.reverseRecOn with
  | nil => exact start
  | append_singleton ts t ih =>
    rw [trace_append, after_append, trace_cons, trace_nil, List.append_nil]
    exact kept _ _ _ _ _ ih (turned_turn _ t)

end Refetch

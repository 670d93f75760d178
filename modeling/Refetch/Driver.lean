import Refetch.Machine
import Refetch.Output
import Refetch.Message
/-!
# The driver of a guarded body

A driver owns the source of the current attempt and the machine, and carries out what the machine
asks for.  It moves in turns: at each of its points it asks its surroundings for one thing, and
the answer takes it to its next point.

* `Assignment`      what a driver is started with; `σ` is the type of sources;
* `Point`           where a driver stands;
* `Driver`          the machine, the source it holds and its point;
* `Driver.ask`      what it waits for;
* `Answer`          what it may be told;
* `Moment`          what it can see of its surroundings when it is told;
* `Driver.react`    its next state, and the source that it lets go, if any.

A driver never holds two sources: the old one is let go before the next transport call.  While it
waits for a source, a pause or the transport, the consumer's close comes first; a response that
comes after the close is let go at once.
-/

namespace Refetch

variable {σ : Type}

/-- what a driver is started with -/
structure Assignment (σ : Type) where
  policy : Policy
  request : Request
  /-- the context of every retry -/
  context : Context
  /-- the body of the first attempt -/
  source : σ
  /-- the length that the first response promised -/
  promised : Option Nat

/-- where a driver stands -/
inductive Point where
  /-- waiting for the next item of its source -/
  | reading
  /-- logging an overflow, before carrying out a directive -/
  | loggingOverflow (d : Directive)
  /-- waiting for room for a chunk, with chunks to follow; `last` if the output ends then -/
  | sending (c : Bytes) (rest : List Bytes) (last : Bool)
  | loggingRetry (cause : Cause)
  | pausing
  /-- waiting for the transport -/
  | dispatching
  /-- waiting for room for the error that ends the output -/
  | failing (e : StageError)
  | stopped
  deriving DecidableEq, Repr

structure Driver (σ : Type) where
  request : Request
  context : Context
  machine : Machine
  /-- the source of the current attempt, until it is let go -/
  source : Option σ
  promised : Option Nat
  point : Point

/-- what a driver waits for -/
inductive Ask (σ : Type) where
  | item (source : σ)
  | log (r : LogRecord)
  | room (i : Item)
  | pause (d : Delay)
  | response (r : Request) (c : Context)
  /-- word that the consumer has closed the output -/
  | word
  | nothing

/-- what a driver may be told -/
inductive Answer (σ : Type) where
  | closed
  | chunk (c : Bytes)
  | ended
  | failed (f : Failure)
  /-- the log took the event, or refused it -/
  | logged (refusal : Option Cause)
  | sent
  /-- the output takes nothing more -/
  | refused
  | elapsed
  | responded (o : Except Failure (Response σ))
  /-- the collaborator broke down -/
  | brokeDown (message : String)

/-- what a driver can see of its surroundings -/
structure Moment where
  closed : Bool
  aborted : Bool
  deriving DecidableEq, Repr

/-- the cause of an end that came before the promised length -/
def prematureEnd (received promised : Nat) : Cause :=
  .stated ("body closed prematurely after " ++ Text.natText received ++ " of " ++
    Text.natText promised ++ " bytes")

def unusableReason (ok : Bool) : String :=
  if ok then "response has no body" else "unsuccessful response"

namespace Driver

def start (a : Assignment σ) : Driver σ where
  request := a.request
  context := a.context
  machine := .new a.policy
  source := some a.source
  promised := a.promised
  point := .reading

/-! ## what a driver asks for -/

def overflowRecord (d : Driver σ) : LogRecord where
  event := .overflow
  requestId := d.context.requestId
  url := d.request.url.text
  attempt := d.machine.attempt
  maxAttempts := d.machine.policy.maxAttempts
  received := d.machine.received
  delayMs := 0
  error := none

def retryRecord (d : Driver σ) (cause : Cause) : LogRecord where
  event := .retry
  requestId := d.context.requestId
  url := d.request.url.text
  attempt := d.machine.attempt
  maxAttempts := d.machine.policy.maxAttempts
  received := d.machine.received
  delayMs := d.machine.policy.delay.ms.toNat
  error := some cause.message

/-- what the driver waits for; a close comes before a source, a pause and the transport -/
def ask (closed : Bool) (d : Driver σ) : Ask σ :=
  match d.point with
  | .reading =>
    match d.source with
    | some s => if closed then .word else .item s
    | none => .nothing
  | .loggingOverflow _ => .log d.overflowRecord
  | .sending c _ _ => .room (.ok c)
  | .loggingRetry cause => .log (d.retryRecord cause)
  | .pausing => if closed then .word else .pause d.machine.policy.delay
  | .dispatching => if closed then .word else .response d.request d.context
  | .failing e => .room (.error e)
  | .stopped => .nothing

def wantsRoom (d : Driver σ) : Bool :=
  match d.point with
  | .sending _ _ _ => true
  | .failing _ => true
  | _ => false

/-! ## turns -/

/-- the driver at another point, holding what it held -/
def goto (d : Driver σ) (p : Point) : Driver σ × Option σ := ({ d with point := p }, none)

/-- the driver at another point, after letting its source go -/
def letGo (d : Driver σ) (p : Point) : Driver σ × Option σ :=
  ({ d with source := none, promised := none, point := p }, d.source)

/-- the consumer is gone: everything is let go -/
def quit (d : Driver σ) : Driver σ × Option σ :=
  { d with machine := d.machine.cancel }.letGo .stopped

/-- an error from outside the source ends the output -/
def terminate (d : Driver σ) (e : StageError) : Driver σ × Option σ :=
  let r := d.machine.fail e
  { d with machine := r.2 }.letGo (match r.1 with
    | some e => .failing e
    | none => .stopped)

/-- the chunks that are worth sending -/
def worthSending (cs : List Bytes) : List Bytes := cs.filter fun c => !c.isEmpty

/-- chunks on their way to the output; `last` if it ends after them -/
def emit (d : Driver σ) (cs : List Bytes) (last : Bool) : Driver σ × Option σ :=
  match worthSending cs with
  | c :: rest => d.goto (.sending c rest last)
  | [] => if last then d.letGo .stopped else d.goto .reading

def apply (d : Driver σ) : Directive → Driver σ × Option σ
  | .nothing => d.goto .reading
  | .forward cs => d.emit cs false
  | .finish cs => d.emit cs true
  | .fail e => d.letGo (.failing e)
  | .retry _ cause => d.letGo (.loggingRetry cause)

def onChunk (d : Driver σ) (c : Bytes) : Driver σ × Option σ :=
  let r := d.machine.onChunk c
  let d' := { d with machine := r.2 }
  if !d.machine.overflowed && r.2.overflowed then d'.goto (.loggingOverflow r.1)
  else d'.apply r.1

/-- the source failed, or ended before its time -/
def onFailure (d : Driver σ) (now : Moment) (cause : Cause) : Driver σ × Option σ :=
  if now.closed then d.quit
  else
    let r := d.machine.onFailure cause now.aborted
    { d with machine := r.2 }.apply r.1

def onEnd (d : Driver σ) (now : Moment) : Driver σ × Option σ :=
  match d.promised with
  | some n =>
    if d.machine.received < n then d.onFailure now (prematureEnd d.machine.received n)
    else { d with machine := d.machine.onEnd.2 }.apply d.machine.onEnd.1
  | none => { d with machine := d.machine.onEnd.2 }.apply d.machine.onEnd.1

/-- the driver with the body of a new attempt -/
def promote (d : Driver σ) (body : σ) (promised : Option Nat) : Driver σ × Option σ :=
  let r := d.machine.beginAttempt
  if r.1 then
    ({ d with machine := r.2, source := some body, promised := promised, point := .reading }, none)
  else ({ d with machine := r.2, point := .stopped }, some body)

def onResponse (d : Driver σ) (r : Response σ) : Driver σ × Option σ :=
  match r.ok, r.body with
  | true, some body => d.promote body (r.expectedLength d.request.method)
  | ok, body =>
    ((d.terminate (.retryFailed d.request.url.text r.status (unusableReason ok))).1, body)

/-- the driver's next state, and the source that it lets go -/
def react (now : Moment) (d : Driver σ) (a : Answer σ) : Driver σ × Option σ :=
  match d.point, a with
  | .reading, .closed => d.quit
  | .reading, .chunk c => d.onChunk c
  | .reading, .ended => d.onEnd now
  | .reading, .failed f => d.onFailure now f.normalize
  | .reading, .brokeDown m => d.letGo (.failing (.internal m))
  | .loggingOverflow r, .logged none => d.apply r
  | .loggingOverflow _, .logged (some c) => d.terminate (.log c)
  | .loggingOverflow _, .brokeDown m => d.letGo (.failing (.internal m))
  | .sending _ rest last, .sent => d.emit rest last
  | .sending _ _ _, .refused => d.quit
  | .loggingRetry _, .logged none =>
    d.goto (if d.machine.policy.delay.isZero then .dispatching else .pausing)
  | .loggingRetry _, .logged (some c) => d.terminate (.log c)
  | .loggingRetry _, .brokeDown m => d.letGo (.failing (.internal m))
  | .pausing, .closed => d.quit
  | .pausing, .elapsed => d.goto .dispatching
  | .pausing, .brokeDown m => d.letGo (.failing (.internal m))
  | .dispatching, .closed => d.quit
  | .dispatching, .responded (.ok r) => if now.closed then (d.quit.1, r.body) else d.onResponse r
  | .dispatching, .responded (.error f) =>
    if now.closed then d.quit else d.terminate (.dispatch f.normalize)
  | .dispatching, .brokeDown m => d.letGo (.failing (.internal m))
  | .failing _, .sent => d.goto .stopped
  | .failing _, .refused => d.goto .stopped
  | _, _ => (d, none)

end Driver

end Refetch

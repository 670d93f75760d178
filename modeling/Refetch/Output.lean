import Refetch.Bytes
import Refetch.Context
import Refetch.Failure
/-!
# The output and the log of a driver

The output is a queue between a driver and its consumer.  It keeps its order, holds at most
`Output.capacity` items, and is closed by the consumer or ended by the driver.  Two kinds of event
are logged: a retry, before it is made, and an overflow, when the ceiling turns an attempt into a
stream.

* `Item`          a chunk, or the error that ends the output;
* `Output`        the queue and its two ends;
* `Output.offer`  an item from the driver;
* `Output.next`   what the consumer gets;
* `LogEvent`      the kinds of event, with their names;
* `LogRecord`     what is logged with them.
-/

namespace Refetch

/-- a chunk, or the error that ends the output -/
abbrev Item := Except StageError Bytes

/-- a queue between a driver and its consumer -/
structure Output where
  queue : List Item := []
  closed : Bool := false
  ended : Bool := false

inductive Offer where
  | taken (o : Output)
  | refused
  | full

inductive Next where
  | item (i : Item)
  | finish
  | pending

namespace Output

def capacity : Nat := 16

def hasRoom (o : Output) : Bool := o.queue.length < capacity

def push (o : Output) (i : Item) : Output := { o with queue := o.queue ++ [i] }

/-- an item from the driver: a closed queue refuses it, a full one makes it wait -/
def offer (o : Output) (i : Item) : Offer :=
  if o.closed then .refused else if o.hasRoom then .taken (o.push i) else .full

def close (o : Output) : Output := { o with closed := true }

def finish (o : Output) : Output := { o with ended := true }

/-- what the consumer gets, and the queue after it -/
def next (o : Output) : Next × Output :=
  if o.closed then (.finish, o)
  else match o.queue with
    | i :: rest => (.item i, { o with queue := rest })
    | [] => (if o.ended then .finish else .pending, o)

theorem next_closed (o : Output) (h : o.closed = true) : o.next = (.finish, o) := by
  simp [next, h]

end Output

/-! ## logged events -/

inductive LogEvent where
  | retry
  /-- the ceiling has been passed -/
  | overflow
  deriving DecidableEq, Repr

def LogEvent.name : LogEvent → String
  | .retry => "body_retry.retry"
  | .overflow => "body_retry.overflow"

/-- what is logged with an event -/
structure LogRecord where
  event : LogEvent
  requestId : RequestId
  url : String
  attempt : Nat
  maxAttempts : Nat
  /-- the bytes that came from the source of the attempt -/
  received : Nat
  delayMs : Nat
  /-- the message of the failure, if there was one -/
  error : Option String
  deriving DecidableEq, Repr

end Refetch

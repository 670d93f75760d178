import Refetch.RequestId
/-!
# Dispatch contexts

A transport call carries a context: the abort signals of the request, the mark that an enclosing
stage already guards its body, and the identity of the request.

* `Signals`            the signals that have been switched on;
* `Abort`              the signals that one request listens to;
* `Context`            what a call carries;
* `Context.wrapped`    the context that a stage hands down;
* `Contexts`           a growing family of contexts over shared signals, and the moves on it.

Signals are shared: a context holds the names of its signals, so switching one on is seen by
every context that holds its name, whether made before or after.
-/

namespace Refetch

abbrev SignalId := Nat

/-- the signals that have been switched on -/
abbrev Signals := List SignalId

/-- the signals that one request listens to -/
structure Abort where
  request : Option SignalId := none
  context : Option SignalId := none
  deriving DecidableEq, Repr, Inhabited

def Abort.isOn (a : Abort) (on : Signals) : Bool :=
  a.request.any on.contains || a.context.any on.contains

/-- what a transport call carries -/
structure Context where
  abort : Abort
  /-- an enclosing stage already guards the body -/
  active : Bool
  requestId : RequestId
  deriving DecidableEq, Repr, Inhabited

namespace Context

def new (abort : Abort) (serial : Nat) : Context := ⟨abort, false, .drawn serial⟩

/-- the context that a stage hands down -/
def wrapped (c : Context) : Context := { c with active := true }

def isAborted (c : Context) (on : Signals) : Bool := c.abort.isOn on

end Context

/-! ## families of contexts -/

/-- a signal at the start: there, and possibly on already -/
inductive StartSignal where
  | absent
  | live
  | cancelled
  deriving DecidableEq, Repr

namespace StartSignal

/-- the name that a context holds for the signal -/
def held (s : StartSignal) (name : SignalId) : Option SignalId :=
  if s = .absent then none else some name

/-- the signal's contribution to the signals that are on -/
def on (s : StartSignal) (name : SignalId) : Signals :=
  if s = .cancelled then [name] else []

end StartSignal

/-- contexts over shared signals; there is always a first one -/
structure Contexts where
  on : Signals
  first : Context
  others : List Context
  /-- the number of identities drawn -/
  drawn : Nat
  deriving Repr

inductive ContextMove where
  | cancelRequest
  | cancelContext
  | wrapped (i : Nat)
  | clone (i : Nat)
  | fresh
  deriving DecidableEq, Repr

namespace Contexts

def requestSignal : SignalId := 0
def contextSignal : SignalId := 1

/-- the family of one new context -/
def start (request context : StartSignal) : Contexts where
  on := request.on requestSignal ++ context.on contextSignal
  first := .new ⟨request.held requestSignal, context.held contextSignal⟩ 0
  others := []
  drawn := 1

def all (f : Contexts) : List Context := f.first :: f.others

/-- the context at a place, counted round -/
def pick (f : Contexts) (i : Nat) : Context := f.all.getD (i % f.all.length) f.first

def push (f : Contexts) (c : Context) : Contexts := { f with others := f.others ++ [c] }

/-- a signal switched on, if the family has it -/
def cancel (f : Contexts) (name : Option SignalId) : Contexts :=
  match name with
  | some n => { f with on := n :: f.on }
  | none => f

def step (f : Contexts) : ContextMove → Contexts
  | .cancelRequest => f.cancel f.first.abort.request
  | .cancelContext => f.cancel f.first.abort.context
  | .wrapped i => f.push (f.pick i).wrapped
  | .clone i => f.push (f.pick i)
  | .fresh => { f.push (.new {} f.drawn) with drawn := f.drawn + 1 }

/-- the families after each of a list of moves -/
def scan (f : Contexts) : List ContextMove → List Contexts
  | [] => []
  | m :: ms => f.step m :: (f.step m).scan ms

end Contexts

end Refetch

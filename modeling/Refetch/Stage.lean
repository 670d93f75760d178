import Refetch.Driver
/-!
# The stage

A stage stands between a caller and a transport.  It checks the request, makes the first attempt,
and hands the body out: guarded by a driver, passed through, or not at all.

* `Feed`               a body as a transport gives it back;
* `Program α`          what is done to come to an `α`: calls of the transport and starts of drivers;
* `Transport`          answers a request, under a context;
* `Stage.execute`      one request through a stage;
* `Stage.asTransport`  a stage as the transport of another one;
* `Stage.stack`        stages one inside the other, over the transport itself.

A program is a value that says which calls are made in which order, so the laws of a stage speak
about the program, and whoever runs it supplies the answers.
-/

namespace Refetch

abbrev SourceId := Nat

abbrev OutputId := Nat

/-- a body as a transport gives it back -/
inductive Feed where
  | source (n : SourceId)
  | output (n : OutputId)
  /-- a body that an inner stage passed through -/
  | through (f : Feed)
  deriving DecidableEq, Repr

/-- what a transport call comes to -/
abbrev Outcome := Except Failure (Response Feed)

/-- what is done to come to an `α` -/
inductive Program (α : Type) where
  | done (a : α)
  /-- call the transport, and go on with what it comes to -/
  | call (r : Request) (c : Context) (k : Outcome → Program α)
  /-- start a driver, and go on with its output -/
  | spawn (a : Assignment Feed) (k : OutputId → Program α)

namespace Program

def bind {α β : Type} : Program α → (α → Program β) → Program β
  | .done a, f => f a
  | .call r c k, f => .call r c fun o => (k o).bind f
  | .spawn a k, f => .spawn a fun n => (k n).bind f

def map {α β : Type} (f : α → β) (p : Program α) : Program β := p.bind fun a => .done (f a)

end Program

/-- answers a request, under a context -/
abbrev Transport := Request → Context → Program Outcome

inductive Body where
  | wrapped (out : OutputId)
  | unwrapped (f : Feed)
  deriving DecidableEq, Repr

/-- what a stage hands out: the first response, with its body -/
structure Delivery where
  ok : Bool
  status : Http.Status
  fields : Http.Fields
  body : Option Body
  deriving DecidableEq, Repr

namespace Delivery

def passed (r : Response Feed) : Delivery := ⟨r.ok, r.status, r.fields, r.body.map .unwrapped⟩

def guarded (r : Response Feed) (out : OutputId) : Delivery :=
  ⟨r.ok, r.status, r.fields, some (.wrapped out)⟩

def isWrapped (d : Delivery) : Bool :=
  match d.body with
  | some (.wrapped _) => true
  | _ => false

end Delivery

/-- what one request through a stage comes to -/
abbrev Executed := Except StageError Delivery

namespace Stage

/-- what a driver would be started with for a first response, if its body is to be guarded -/
def assignment? (p : Policy) (r : Request) (c : Context) (resp : Response Feed) :
    Option (Assignment Feed) :=
  if resp.ok then
    let promised := resp.expectedLength r.method
    match resp.body with
    | some source =>
      if Http.exceeds promised p.ceiling then none else some ⟨p, r, c, source, promised⟩
    | none => none
  else none

def deliver (p : Policy) (r : Request) (c : Context) (resp : Response Feed) : Program Executed :=
  match assignment? p r c resp with
  | some a => .spawn a fun out => .done (.ok (.guarded resp out))
  | none => .done (.ok (.passed resp))

/-- the outcome of a call, handed on if it is a response -/
def received (o : Outcome) (k : Response Feed → Program Executed) : Program Executed :=
  match o with
  | .ok resp => k resp
  | .error f => .done (.error (.dispatch f.normalize))

/-- one request through a stage -/
def execute (config : Config) (t : Transport) (r : Request) (c : Context) : Program Executed :=
  if c.active then (t r c).bind fun o => received o fun resp => .done (.ok (.passed resp))
  else
    match Gate.check r config with
    | .error e => .done (.error (.rejected e))
    | .ok p => (t r c.wrapped).bind fun o => received o (deliver p r c.wrapped)

/-! ## stages one inside the other -/

/-- a handed out body as the body of an outer stage's transport -/
def feedOf : Body → Feed
  | .wrapped out => .output out
  | .unwrapped f => .through f

/-- what a stage hands out, as the outcome of a transport call -/
def outcomeOf : Executed → Outcome
  | .ok d => .ok ⟨d.ok, d.status, d.fields, d.body.map feedOf⟩
  | .error e => .error (.staged e)

/-- a stage as the transport of another one -/
def asTransport (config : Config) (t : Transport) : Transport :=
  fun r c => (execute config t r c).map outcomeOf

def dispatch : Transport := fun r c => .call r c .done

/-- stages one inside the other, the outermost first, over the transport itself -/
def stack : List Config → Transport
  | [] => dispatch
  | config :: inner => asTransport config (stack inner)

end Stage

/-- a body as text; `closed` says whether the consumer has closed it -/
def Body.inspect (closed : Bool) : Body → String
  | .wrapped _ => Text.tuple "Wrapped" [Text.record "RetryBody" [("closed", Text.boolText closed)]]
  | .unwrapped _ => "Unwrapped"

def Delivery.inspect (d : Delivery) : String :=
  Text.record "RetryResponse" [
    ("ok", Text.boolText d.ok),
    ("status", Text.natText d.status.code),
    ("headers", Http.Fields.inspect d.fields),
    ("body", Text.optionText (d.body.map (Body.inspect false)))]

end Refetch

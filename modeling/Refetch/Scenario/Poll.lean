import Refetch.Scenario.World
/-!
# Sources and calls, moved on

Whoever waits for a scripted collaborator asks it from time to time:

* `Poll α`          what it answers: a result, nothing yet, or a breakdown;
* `pollSource`      a source, up to its next item;
* `pollFeed`        a body as a transport gave it back;
* `pollCall`        a call of the transport;
* `pollProgram`     a program, call after call;
* `World.logEvent`, `World.beginPause`, `World.isOver`   the log and the pauses.
-/

namespace Refetch.Scenario

/-- what a scripted collaborator answers -/
inductive Poll (α : Type) where
  | ready (a : α)
  | pending
  | broken (b : Breakdown)

inductive SourceItem where
  | chunk (c : Bytes)
  | failure (f : Failure)
  | finish

/-! ## sources -/

/-- a source whose script goes on with these lines, up to its next item -/
def pollSource (n : SourceId) : List SourceAction → World → Poll SourceItem × World
  | [], w => (.ready .finish, (w.setSource n []).note (.read n .finish))
  | .chunk c :: rest, w =>
    (.ready (.chunk c), (w.setSource n rest).note (.read n (.chunk c.length)))
  | .fail f :: rest, w => (.ready (.failure f), (w.setSource n rest).note (.read n .failure))
  | .finish :: rest, w => (.ready .finish, (w.setSource n rest).note (.read n .finish))
  | .gate g :: rest, w =>
    if w.isOpen g then pollSource n rest (w.setSource n rest)
    else (.pending, (w.setSource n (.gate g :: rest)).waitAtGate g)
  | .wait 0 :: rest, w => pollSource n rest (w.setSource n rest)
  | .wait (k + 1) :: rest, w => (.pending, (w.setSource n (.wait k :: rest)).rest)
  | .deed d :: rest, w => pollSource n rest ((w.setSource n rest).doDeed d)
  | .hang :: rest, w => (.pending, w.setSource n (.hang :: rest))
  | .breakDown b :: rest, w => (.broken b, (w.setSource n rest).note (.read n .breakdown))

/-- an item of an output or its end, as an item of a source -/
def itemOf : Option Item → SourceItem
  | some (.ok c) => .chunk c
  | some (.error e) => .failure (.staged e)
  | none => .finish

/-- an item that an inner stage passed through: its failures are errors of that stage -/
def passItem : SourceItem → SourceItem
  | .failure f => .failure (.staged (.stream f.normalize))
  | i => i

def Poll.map {α β : Type} (f : α → β) : Poll α → Poll β
  | .ready a => .ready (f a)
  | .pending => .pending
  | .broken b => .broken b

def pollOutput (n : OutputId) (w : World) : Poll (Option Item) × World :=
  match w.tasks[n]? with
  | some t =>
    match t.output.next with
    | (.item i, o) => (.ready (some i), w.takeItem n t o)
    | (.finish, _) => (.ready none, w)
    | (.pending, _) => (.pending, w.waitForItem n)
  | none => (.ready none, w)

/-- a body as a transport gave it back -/
def pollFeed : Feed → World → Poll SourceItem × World
  | .source n, w => pollSource n (w.sourceRest n) w
  | .output n, w =>
    let r := pollOutput n w
    (r.1.map itemOf, r.2)
  | .through f, w =>
    let r := pollFeed f w
    (r.1.map passItem, r.2)

/-! ## calls -/

def Reply.bare (r : Reply) (status : Http.Status) : Response Feed :=
  { Response.ofStatus (σ := Feed) status with
    fields := r.fields, ok := r.ok.getD status.isSuccess }

def respond (r : Reply) (w : World) : Response Feed × World :=
  let resp := r.bare (r.status.getD .ok)
  match r.body with
  | some as =>
    let (n, w) := w.addSource as
    ({ resp with body := some (.source n) }, w)
  | none => (resp, w)

/-- take the stream payload of a request; what is taken is let go -/
def takePayload (r : Request) (w : World) : World :=
  match r.payload with
  | .stream c =>
    match w.takeCell c with
    | (some n, w) => (w.note (.release n)).note (.took (some true))
    | (none, w) => w.note (.took (some false))
  | _ => w.note (.took none)

def scriptExhausted : Failure := .foreign "script exhausted"

/-- a call of the transport whose script goes on with these lines -/
def pollCall (r : Request) : List CallAction → World → Poll Outcome × List CallAction × World
  | [], w => (.ready (.error scriptExhausted), [], w)
  | .respond reply :: rest, w =>
    let (resp, w) := respond reply w
    (.ready (.ok resp), rest, w)
  | .fail f :: rest, w => (.ready (.error f), rest, w)
  | .gate g :: rest, w =>
    if w.isOpen g then pollCall r rest w else (.pending, .gate g :: rest, w.waitAtGate g)
  | .wait 0 :: rest, w => pollCall r rest w
  | .wait (k + 1) :: rest, w => (.pending, .wait k :: rest, w.rest)
  | .deed d :: rest, w => pollCall r rest (w.doDeed d)
  | .take :: rest, w => pollCall r rest (takePayload r w)
  | .hang :: rest, w => (.pending, .hang :: rest, w)
  | .breakDown b :: rest, w => (.broken b, rest, w)

/-- a call begins: it is noted, and takes the next script -/
def beginCall (r : Request) (c : Context) (w : World) : List CallAction × World :=
  let consumed := match r.payload with
    | .stream n => (w.cell n).isConsumed
    | _ => false
  let w := w.note (.attempt ⟨r, consumed, c, c.isAborted w.on⟩)
  match w.script with
  | as :: rest => (as, { w with script := rest })
  | [] => ([], w)

/-- a program; `lines` is the rest of the script of its call, once that has begun -/
def pollProgram {α : Type} :
    Program α → Option (List CallAction) → World → Poll α × Running α × World
  | .done a, lines, w => (.ready a, ⟨.done a, lines⟩, w)
  | .spawn a k, _, w =>
    let (n, w) := w.spawn a
    pollProgram (k n) none w
  | .call r c k, lines, w =>
    let (lines, w) := match lines with
      | some as => (as, w)
      | none => beginCall r c w
    match pollCall r lines w with
    | (.ready o, _, w) => pollProgram (k o) none w
    | (.pending, as, w) => (.pending, ⟨.call r c k, some as⟩, w)
    | (.broken b, as, w) => (.broken b, ⟨.call r c k, some as⟩, w)

def Running.poll {α : Type} (p : Running α) (w : World) : Poll α × Running α × World :=
  pollProgram p.program p.lines w

/-! ## log and pauses -/

/-- the log is told of an event: it takes it, refuses it, or breaks down -/
def World.logEvent (w : World) (r : LogRecord) : Poll (Option Cause) × World :=
  let n := w.logCalls + 1
  let w := { w with logCalls := n }
  match w.log with
  | .record => (.ready none, w.note (.logged r))
  | .lazy => (.ready none, w.note (.named r.event))
  | .failAt k message =>
    (.ready (if n = k then some (.stated message) else none), w.note (.logged r))
  | .breakAt k b => (if n = k then .broken b else .ready none, w.note (.logged r))
  | .leveled shown => (.ready none, if shown then w.note (.traced r) else w)

def World.beginPause (w : World) (d : Delay) : Except Breakdown Pause × World :=
  let noted := w.note (.delay d.ms.toNat)
  match w.pauses with
  | .record => (.ok .passed, noted)
  | .stall => (.ok .never, noted)
  | .gate => (.ok (.untilOpen "delay"), noted)
  | .breakDown => (.error (.words "scheduler broke"), noted)
  | .clock => (.ok (.until (w.dueMoment d.ms.toNat)), w)

def World.isOver (w : World) : Pause → Bool
  | .until moment => moment ≤ w.clock
  | .untilOpen g => w.isOpen g
  | .never => false
  | .passed => true

def World.waitFor (w : World) : Pause → World
  | .until moment => w.waitForClock moment
  | .untilOpen g => w.waitAtGate g
  | .never => w
  | .passed => w

end Refetch.Scenario

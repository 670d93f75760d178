import Refetch.Scenario.Poll
/-!
# Drivers, moved on

* `World.step`    one step of a driver: what it asks for is looked up, and it is told;
* `World.move`    the turn of a driver: step after step, until it has to wait;
* `World.drain`   turns of the drivers that are to move, until none is;
* `World.settle`  everything that can move has moved.
-/

namespace Refetch.Scenario

namespace World

def momentOf (w : World) (t : Task) : Moment :=
  ⟨t.output.closed, t.driver.context.isAborted w.on⟩

def tell (w : World) (n : OutputId) (a : Answer Feed) : World :=
  match w.tasks[n]? with
  | some t =>
    let r := t.driver.react (w.momentOf t) a
    (w.mapTask n fun t => { t with driver := r.1 }).releaseOption r.2
  | none => w

/-- a driver is told that a collaborator broke down; its request is gone from then on -/
def tellBreakdown (w : World) (n : OutputId) (b : Breakdown) : World :=
  let w := w.tell n (.brokeDown b.message)
  match w.tasks[n]? with
  | some t => w.releaseRequest t.driver.request
  | none => w

/-- an answer of a collaborator is passed on to a driver, if there is one -/
def tellPoll {α : Type} (w : World) (n : OutputId) (f : α → Answer Feed) : Poll α → Bool × World
  | .ready a => (true, w.tell n (f a))
  | .broken b => (true, w.tellBreakdown n b)
  | .pending => (false, w)

/-- an item of a source, as a driver is told of it -/
def answerOf : SourceItem → Answer Feed
  | .chunk c => .chunk c
  | .failure f => .failed f
  | .finish => .ended

def stepPause (w : World) (n : OutputId) (t : Task) (d : Delay) : Bool × World :=
  match t.pause with
  | none =>
    match w.beginPause d with
    | (.ok p, w) => (true, w.mapTask n fun t => { t with pause := some p })
    | (.error b, w) => (true, w.tellBreakdown n b)
  | some p =>
    if w.isOver p then (true, (w.mapTask n fun t => { t with pause := none }).tell n .elapsed)
    else (false, w.waitFor p)

def stepCall (w : World) (n : OutputId) (t : Task) (r : Request) (c : Context) : Bool × World :=
  let running := t.call.getD ⟨Stage.stack w.inner r c, none⟩
  match running.poll w with
  | (.ready o, _, w) => (true, (w.mapTask n fun t => { t with call := none }).tell n (.responded o))
  | (.broken b, _, w) =>
    (true, (w.mapTask n fun t => { t with call := none }).tellBreakdown n b)
  | (.pending, rest, w) => (false, w.mapTask n fun t => { t with call := some rest })

/-- a driver is done: its request is gone, and its output ends -/
def stop (w : World) (n : OutputId) (t : Task) : World :=
  ((w.mapTask n fun t => { t with isOver := true }).releaseRequest t.driver.request).setOutput n
    t.output.finish

/-- one step of a driver; true if it may have another one -/
def step (w : World) (n : OutputId) : Bool × World :=
  match w.tasks[n]? with
  | none => (false, w)
  | some t =>
    match t.driver.ask t.output.closed with
    | .word => (true, (w.mapTask n fun t => { t with pause := none, call := none }).tell n .closed)
    | .nothing => (false, if t.isOver then w else w.stop n t)
    | .item f =>
      let (answer, w) := pollFeed f w
      w.tellPoll n answerOf answer
    | .log r =>
      let (answer, w) := w.logEvent r
      w.tellPoll n .logged answer
    | .room i =>
      match t.output.offer i with
      | .taken o => (true, (w.setOutput n o).tell n .sent)
      | .refused => (true, w.tell n .refused)
      | .full => (false, w)
    | .pause d => w.stepPause n t d
    | .response r c => w.stepCall n t r c

def steps : Nat → World → OutputId → World
  | 0, w, _ => w
  | fuel + 1, w, n =>
    match w.step n with
    | (true, w) => steps fuel w n
    | (false, w) => w

def move (w : World) (n : OutputId) : World :=
  { steps w.limit { w with mover := some n } n with mover := none }

/-- turns of the drivers that are to move, until none is -/
def drainWith : Nat → World → World
  | 0, w => w
  | fuel + 1, w =>
    match w.due with
    | n :: rest => drainWith fuel ({ w with due := rest }.move n)
    | [] => w

/-- turns of the drivers that are to move, until none is; then those who let the others move
first are to move -/
def drain (w : World) : World := (drainWith w.limit w).wakeResting

/-- turns until nobody is to move -/
def settleWith : Nat → World → World
  | 0, w => w
  | fuel + 1, w => if w.isIdle then w else settleWith fuel w.drain

def settle (w : World) : World := settleWith w.limit w

end World

end Refetch.Scenario

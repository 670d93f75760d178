import Refetch.Scenario.Script
/-!
# The world of a scenario

* `Entry`      one thing that is noted while a scenario runs;
* `Task`       a driver with its output and what it is in the middle of;
* `World`      scripts, sources, drivers, bodies, signals, gates, the clock, and the notes;
* `World.rouse`     a driver is to move, after those that are to move already;
* `World.release`   a body is let go;
* `World.close`, `World.drop`, `World.abort`   what can be done to a slot, with the word for it;
* `World.openGate`, `World.passTime`   a gate opens, the clock moves on.

Drivers move one at a time, in the order in which they were roused: by their start, by the close
of their output or by room in it, by an item of the output that they read, by a gate or by the
clock.  Whoever has the turn keeps it until it has to wait.
-/

namespace Refetch.Scenario

inductive ReadNote where
  | chunk (length : Nat)
  | failure
  | finish
  | breakdown
  deriving DecidableEq, Repr

structure CallNote where
  request : Request
  consumed : Bool
  context : Context
  aborted : Bool
  deriving Repr

/-- one thing that is noted while a scenario runs -/
inductive Entry where
  | attempt (c : CallNote)
  | read (n : SourceId) (what : ReadNote)
  | release (n : SourceId)
  | delay (ms : Nat)
  | logged (r : LogRecord)
  | named (e : LogEvent)
  /-- a record written out -/
  | traced (r : LogRecord)
  /-- whether the payload could be taken, or that it is no stream -/
  | took (b : Option Bool)
  /-- a deed, with the word for what came of it -/
  | deed (d : Deed) (word : String)

inductive Pause where
  | until (moment : Nat)
  | untilOpen (g : Gate)
  | never
  | passed
  deriving DecidableEq, Repr

/-- a program under way; `lines` is the rest of the script of its call, once that has begun -/
structure Running (α : Type) where
  program : Program α
  lines : Option (List CallAction)

/-- a driver with its output -/
structure Task where
  driver : Driver Feed
  output : Output := {}
  pause : Option Pause := none
  call : Option (Running Outcome) := none
  /-- the driver that waits for the next item of the output -/
  reader : Option OutputId := none
  isOver : Bool := false

structure World where
  /-- the settings of the inner stages -/
  inner : List Config
  log : LogMode
  pauses : PauseMode
  /-- more moves than the scenario can take -/
  limit : Nat
  /-- the driver that has the turn; if there is none, the consumer has it -/
  mover : Option OutputId := none
  /-- the drivers that are to move, in this order -/
  due : List OutputId := []
  /-- those who let the others move first, newest first -/
  resting : List (Option OutputId) := []
  /-- the drivers that wait at a gate, in the order in which they came to it -/
  atGates : List (Gate × OutputId) := []
  /-- the drivers that wait for a moment of the clock, in the order in which they began to -/
  timers : List (Nat × OutputId) := []
  clock : Nat := 0
  opened : List Gate := []
  on : Signals := []
  signals : Nat := 0
  script : List (List CallAction)
  /-- the rest of the script of each source -/
  sources : List (List SourceAction) := []
  cells : List (SinglePass SourceId) := []
  tasks : List Task := []
  bodies : List (Slot × Body) := []
  /-- the signals of each slot, newest first -/
  aborts : List ((Slot × Which) × SignalId) := []
  logCalls : Nat := 0
  /-- what has been noted, newest first -/
  notes : List Entry := []

namespace World

def note (w : World) (e : Entry) : World := { w with notes := e :: w.notes }

def isOpen (w : World) (g : Gate) : Bool := w.opened.contains g

/-! ## turns -/

/-- a driver is to move, after those that are to move already -/
def rouse (w : World) (n : OutputId) : World :=
  if w.due.contains n then w else { w with due := w.due ++ [n] }

def rouseAll (w : World) (ns : List OutputId) : World := ns.foldl rouse w

def isIdle (w : World) : Bool := w.due.isEmpty && w.resting.isEmpty

/-- whoever has the turn lets the others move first -/
def rest (w : World) : World := { w with resting := w.mover :: w.resting }

def wakeResting (w : World) : World :=
  rouseAll { w with resting := [] } (w.resting.filterMap id)

def waitAtGate (w : World) (g : Gate) : World :=
  match w.mover with
  | some n => if w.atGates.contains (g, n) then w else { w with atGates := w.atGates ++ [(g, n)] }
  | none => w

def openGate (w : World) (g : Gate) : World :=
  rouseAll { w with opened := g :: w.opened, atGates := w.atGates.filter fun p => p.1 != g }
    ((w.atGates.filter fun p => p.1 == g).map Prod.snd)

def lastMoment : Nat := 18446744073709551613

/-- the longest pause, thirty years; a pause that would be longer is cut to it -/
def longestPause : Nat := 946080000000

/-- the moment at which a pause that begins now is over -/
def dueMoment (w : World) (ms : Nat) : Nat := min (w.clock + min ms longestPause) lastMoment

def waitForClock (w : World) (moment : Nat) : World :=
  match w.mover with
  | some n =>
    if w.timers.contains (moment, n) then w else { w with timers := w.timers ++ [(moment, n)] }
  | none => w

/-- the clock moves on at once, and those whose moment has come are to move, earlier moments
first -/
def passTime (w : World) (ms : Nat) : World :=
  let now := min (w.clock + ms) lastMoment
  let past := w.timers.filter fun p => p.1 ≤ now
  rouseAll { w with clock := now, timers := w.timers.filter fun p => now < p.1 }
    ((past.mergeSort fun a b => a.1 ≤ b.1).map Prod.snd)

/-! ## sources, cells and tasks -/

/-- one more source, numbered from one -/
def addSource (w : World) (as : List SourceAction) : SourceId × World :=
  (w.sources.length + 1, { w with sources := w.sources ++ [as] })

def sourceRest (w : World) (n : SourceId) : List SourceAction := w.sources.getD (n - 1) []

def setSource (w : World) (n : SourceId) (as : List SourceAction) : World :=
  { w with sources := w.sources.set (n - 1) as }

def addCell (w : World) (n : SourceId) : CellId × World :=
  (w.cells.length, { w with cells := w.cells ++ [.new n] })

def cell (w : World) (c : CellId) : SinglePass SourceId := w.cells.getD c ⟨none⟩

/-- the content of a cell, and the world after it is taken -/
def takeCell (w : World) (c : CellId) : Option SourceId × World :=
  ((w.cell c).take.1, { w with cells := w.cells.set c (w.cell c).take.2 })

/-- one more driver, which is to move -/
def spawn (w : World) (a : Assignment Feed) : OutputId × World :=
  (w.tasks.length, rouse { w with tasks := w.tasks ++ [{ driver := .start a }] } w.tasks.length)

def mapTask (w : World) (n : OutputId) (f : Task → Task) : World :=
  { w with tasks := w.tasks.modify n f }

/-- the consumer of an output is gone -/
def closeOutput (w : World) (n : OutputId) : World :=
  (w.mapTask n fun t => { t with output := t.output.close }).rouse n

/-- an output after its consumer has taken an item: a driver that waits for room is to move -/
def takeItem (w : World) (n : OutputId) (t : Task) (o : Output) : World :=
  let w := w.mapTask n fun t => { t with output := o }
  if t.driver.wantsRoom then w.rouse n else w

def waitForItem (w : World) (n : OutputId) : World :=
  w.mapTask n fun t => { t with reader := w.mover }

/-- an output after its driver has changed it: whoever waits for its next item is to move -/
def setOutput (w : World) (n : OutputId) (o : Output) : World :=
  let reader := (w.tasks[n]?).bind Task.reader
  (w.mapTask n fun t => { t with output := o, reader := none }).rouseAll reader.toList

/-! ## letting go -/

/-- a body is let go -/
def release (w : World) : Feed → World
  | .source n => w.note (.release n)
  | .output n => w.closeOutput n
  | .through f => w.release f

def releaseOption (w : World) : Option Feed → World
  | some f => w.release f
  | none => w

/-- the last copy of a request is gone, and its payload with it -/
def releaseRequest (w : World) (r : Request) : World :=
  match r.payload with
  | .stream c =>
    match w.takeCell c with
    | (some n, w) => w.note (.release n)
    | (none, w) => w
  | _ => w

def dropBody (w : World) : Body → World
  | .wrapped n => w.closeOutput n
  | .unwrapped f => w.release f

/-! ## slots -/

def body? (w : World) (s : Slot) : Option Body := (w.bodies.find? fun p => p.1 == s).map Prod.snd

def clearSlot (w : World) (s : Slot) : World :=
  { w with bodies := w.bodies.filter fun p => p.1 != s }

/-- a body in a slot; a body that was there is dropped -/
def fillSlot (w : World) (s : Slot) (b : Body) : World :=
  let filled := { w.clearSlot s with bodies := (w.clearSlot s).bodies ++ [(s, b)] }
  match w.body? s with
  | some old => filled.dropBody old
  | none => filled

def close (w : World) (s : Slot) : String × World :=
  match w.body? s with
  | some (.wrapped n) => ("closed", w.closeOutput n)
  | some (.unwrapped _) => ("unwrapped", w)
  | none => ("gone", w)

def drop (w : World) (s : Slot) : String × World :=
  match w.body? s with
  | some b => ("dropped", (w.clearSlot s).dropBody b)
  | none => ("gone", w)

def signal? (w : World) (s : Slot) (which : Which) : Option SignalId :=
  (w.aborts.find? fun p => p.1 == (s, which)).map Prod.snd

def abort (w : World) (s : Slot) (which : Which) : String × World :=
  match w.signal? s which with
  | some n => ("cancelled", { w with on := n :: w.on })
  | none => ("gone", w)

def perform (w : World) : Deed → String × World
  | .close s => w.close s
  | .drop s => w.drop s
  | .abort s which => w.abort s which

/-- a deed of a script, with its note -/
def doDeed (w : World) (d : Deed) : World :=
  let r := w.perform d
  r.2.note (.deed d r.1)

/-! ## signals -/

/-- a new signal, if the start asks for one; a slot keeps the signals that are not replaced -/
def addSignal (w : World) (s : Slot) (which : Which) (start : StartSignal) :
    Option SignalId × World :=
  let name := w.signals
  let held := start.held name
  (held, { w with
    signals := name + 1
    on := start.on name ++ w.on
    aborts := held.toList.map (fun n => ((s, which), n)) ++ w.aborts })

def addAbort (w : World) (s : Slot) (request context : StartSignal) : Abort × World :=
  let (r, w) := w.addSignal s .request request
  let (c, w) := w.addSignal s .context context
  (⟨r, c⟩, w)

end World

end Refetch.Scenario

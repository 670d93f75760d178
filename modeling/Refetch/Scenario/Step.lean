import Refetch.Scenario.Turn
/-!
# Steps of a consumer

* `Upload`, `Execution`   a request to be executed, its stream payload as a script;
* `Step`        what a consumer does with a slot, a gate or the clock;
* `Report`      what comes of it;
* `World.await` waits for something while the drivers move, as long as anything moves;
* `World.act`   one step, after which everything has settled.
-/

namespace Refetch.Scenario

/-- a payload, a stream as its script -/
inductive Upload where
  | whole (p : Payload)
  | stream (as : List SourceAction)

structure Execution where
  method : Http.Method
  url : Http.Url
  fields : Http.Fields
  upload : Upload
  active : Bool
  requestId : RequestId
  requestSignal : StartSignal
  contextSignal : StartSignal

inductive Step where
  | execute (s : Slot) (e : Execution)
  | next (s : Slot)
  | drain (s : Slot)
  | collect (s : Slot)
  | close (s : Slot)
  | drop (s : Slot)
  | abort (s : Slot) (w : Which)
  | isClosed (s : Slot)
  | inspect (s : Slot)
  | openGate (g : Gate)
  | advance (ms : Nat)

/-- what comes of asking for the next item of a body -/
inductive ItemReport where
  | chunk (c : Bytes)
  | error (e : StageError)
  | finish
  | pending
  | broken (b : Breakdown)
  | gone

inductive Report where
  | delivered (d : Delivery)
  | error (e : StageError)
  | broken (b : Breakdown)
  | pending
  | item (i : ItemReport)
  | items (is : List ItemReport)
  | bytes (b : Bytes)
  | truth (b : Bool)
  | word (s : String)
  | nothing

/-- the item was a chunk, so there may be more -/
def ItemReport.isChunk : ItemReport → Bool
  | .chunk _ => true
  | _ => false

def pollBody : Body → World → Poll (Option Item) × World
  | .wrapped n, w => pollOutput n w
  | .unwrapped f, w =>
    let r := pollFeed f w
    (r.1.map fun
      | .chunk c => some (.ok c)
      | .failure f => some (.error (.stream f.normalize))
      | .finish => none, r.2)

def ItemReport.ofItem : Option Item → ItemReport
  | some (.ok c) => .chunk c
  | some (.error e) => .error e
  | none => .finish

namespace World

variable {α β : Type}

/-- wait for something with so much fuel -/
def awaitWith (poll : β → World → (α ⊕ β) × World) : Nat → β → World → (α ⊕ β) × World
  | 0, b, w => (.inr b, w)
  | fuel + 1, b, w =>
    match poll b w with
    | (.inl a, w) => (.inl a, w)
    | (.inr b, w) => if w.isIdle then (.inr b, w) else awaitWith poll fuel b w.drain

/-- wait for something while the drivers move, as long as anything moves -/
def await (poll : β → World → (α ⊕ β) × World) (b : β) (w : World) : (α ⊕ β) × World :=
  awaitWith poll w.limit b w

def putBack (w : World) (s : Slot) (b : Body) : World := { w with bodies := w.bodies ++ [(s, b)] }

/-! ## bodies -/

def pollItem (b : Body) (_ : Unit) (w : World) : (ItemReport ⊕ Unit) × World :=
  match pollBody b w with
  | (.ready i, w) => (.inl (.ofItem i), w)
  | (.broken b, w) => (.inl (.broken b), w)
  | (.pending, w) => (.inr (), w)

/-- the next item of the body in a slot; the body is out of its slot meanwhile -/
def next (w : World) (s : Slot) : ItemReport × World :=
  match w.body? s with
  | none => (.gone, w)
  | some b =>
    match (w.clearSlot s).await (pollItem b) () with
    | (.inl (.broken d), w) => (.broken d, w.dropBody b)
    | (.inl i, w) => (i, w.putBack s b)
    | (.inr (), w) => (.pending, w.putBack s b)

/-- the items of the body in a slot up to the first that is no chunk -/
def itemsWith : Nat → World → Slot → List ItemReport × World
  | 0, w, _ => ([], w)
  | fuel + 1, w, s =>
    let (i, w) := w.next s
    let w := w.settle
    if i.isChunk then
      let (is, w) := itemsWith fuel w s
      (i :: is, w)
    else ([i], w)

def items (w : World) (s : Slot) : List ItemReport × World := itemsWith w.limit w s

/-- the chunks of a body for as long as there are any, newest first -/
def gatherWith : Nat → Body → List Bytes → World → (Report ⊕ List Bytes) × World
  | 0, _, cs, w => (.inr cs, w)
  | fuel + 1, b, cs, w =>
    match pollBody b w with
    | (.ready (some (.ok c)), w) => gatherWith fuel b (c :: cs) w
    | (.ready (some (.error e)), w) => (.inl (.error e), w)
    | (.ready none, w) => (.inl (.bytes cs.reverse.flatten), w)
    | (.broken d, w) => (.inl (.broken d), w)
    | (.pending, w) => (.inr cs, w)

/-- all bytes of the body in a slot; the body is gone afterwards -/
def collect (w : World) (s : Slot) : Report × World :=
  match w.body? s with
  | none => (.item .gone, w)
  | some b =>
    match (w.clearSlot s).await (gatherWith w.limit b) [] with
    | (.inl r, w) => (r, w.dropBody b)
    | (.inr _, w) => (.pending, w.dropBody b)

/-! ## requests -/

/-- the payload of a request, a stream in a new cell -/
def addUpload (w : World) : Upload → Payload × World
  | .whole p => (p, w)
  | .stream as =>
    let (n, w) := w.addSource as
    let (c, w) := w.addCell n
    (.stream c, w)

def pollExecuted (p : Running Executed) (w : World) :
    (Except Breakdown Executed ⊕ Running Executed) × World :=
  match p.poll w with
  | (.ready r, _, w) => (.inl (.ok r), w)
  | (.broken b, _, w) => (.inl (.error b), w)
  | (.pending, p, w) => (.inr p, w)

def execute (w : World) (config : Config) (s : Slot) (e : Execution) : Report × World :=
  let (abort, w) := w.addAbort s e.requestSignal e.contextSignal
  let (payload, w) := w.addUpload e.upload
  let request : Request := ⟨e.method, e.url, e.fields, payload⟩
  let context : Context := ⟨abort, e.active, e.requestId⟩
  let program := Stage.execute config (Stage.stack w.inner) request context
  match w.await pollExecuted ⟨program, none⟩ with
  | (.inl (.ok (.ok d)), w) =>
    let w := if d.isWrapped then w else w.releaseRequest request
    (.delivered d, match d.body with
      | some b => w.fillSlot s b
      | none => w)
  | (.inl (.ok (.error e)), w) => (.error e, w.releaseRequest request)
  | (.inl (.error b), w) => (.broken b, w.releaseRequest request)
  | (.inr _, w) => (.pending, w.releaseRequest request)

/-! ## steps -/

def isClosed (w : World) : Body → Bool
  | .wrapped n => (w.tasks[n]?).any fun t => t.output.closed
  | .unwrapped _ => false

def act (w : World) (config : Config) : Step → Report × World
  | .execute s e => w.execute config s e
  | .next s =>
    let (i, w) := w.next s
    (.item i, w)
  | .drain s =>
    let (is, w) := w.items s
    (.items is, w)
  | .collect s => w.collect s
  | .close s =>
    let (word, w) := w.close s
    (.word word, w)
  | .drop s =>
    let (word, w) := w.drop s
    (.word word, w)
  | .abort s which =>
    let (word, w) := w.abort s which
    (.word word, w)
  | .isClosed s =>
    (match w.body? s with
      | some (.wrapped n) => .truth (w.isClosed (.wrapped n))
      | some (.unwrapped _) => .word "unwrapped"
      | none => .item .gone, w)
  | .inspect s =>
    (match w.body? s with
      | some b => .word (b.inspect (w.isClosed b))
      | none => .item .gone, w)
  | .openGate g => (.nothing, w.openGate g)
  | .advance ms => (.nothing, w.passTime ms)

end World

end Refetch.Scenario

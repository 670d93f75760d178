import Refetch.Bytes
import Refetch.Failure
import Refetch.Text.Record
/-!
# Request payloads

* `Part`          one part of a multipart form;
* `Payload`       the declared body of a request; a stream payload names a shared cell;
* `SinglePass`    such a cell: what it holds until it is taken, once;
* `Handles`       a growing family of handles on one cell, and the moves on it.

Every payload but a stream can be sent again unchanged.
-/

namespace Refetch

structure Part where
  name : String
  fileName : Option String
  contentType : Option String
  data : Bytes
  deriving DecidableEq, Repr

def Part.ofText (name : String) (value : Bytes) : Part := ⟨name, none, none, value⟩

/-- the name of a cell that a stream payload is taken from -/
abbrev CellId := Nat

/-- the declared body of a request -/
inductive Payload where
  | empty
  | text (s : String)
  | form (pairs : List (String × String))
  | bytes (b : Bytes)
  | blob (contentType : Option String) (data : Bytes)
  | multipart (parts : List Part)
  | stream (cell : CellId)
  deriving DecidableEq, Repr, Inhabited

/-- the payload can be sent again unchanged -/
def Payload.isReplayable : Payload → Bool
  | .stream _ => false
  | _ => true

/-- an item of a stream: a chunk, or a failure in its place -/
abbrev StreamItem := Except Failure Bytes

/-! ## what is taken once -/

/-- a cell whose content can be taken once -/
structure SinglePass (α : Type) where
  content : Option α
  deriving DecidableEq, Repr

namespace SinglePass

variable {α : Type}

def new (a : α) : SinglePass α := ⟨some a⟩

/-- the content if it is still there, and the cell without it -/
def take (s : SinglePass α) : Option α × SinglePass α := (s.content, ⟨none⟩)

def isConsumed (s : SinglePass α) : Bool := s.content.isNone

def inspect (s : SinglePass α) : String :=
  Text.record "SinglePassStream" [("consumed", Text.boolText s.isConsumed)]

end SinglePass

/-! ## handles -/

/-- handles on one cell, each still held or dropped -/
structure Handles (α : Type) where
  cell : SinglePass α
  held : List Bool

/-- a move with the handle at a place, counted round -/
inductive HandleMove where
  | take
  | consumed
  | replayable
  | inspect
  | clone
  | drop
  deriving DecidableEq, Repr

inductive HandleAnswer (α : Type) where
  | taken (content : Option α)
  | truth (b : Bool)
  | shown (s : String)
  | done
  | gone

namespace Handles

variable {α : Type}

def new (a : α) : Handles α := ⟨.new a, [true]⟩

/-- the payload that a handle stands for -/
def payload : Payload := .stream 0

/-- one move with the handle at place `i` -/
def step (h : Handles α) (m : HandleMove) (i : Nat) : HandleAnswer α × Handles α :=
  let i := i % h.held.length
  if h.held.getD i false then
    match m with
    | .take => (.taken h.cell.take.1, { h with cell := h.cell.take.2 })
    | .consumed => (.truth h.cell.isConsumed, h)
    | .replayable => (.truth payload.isReplayable, h)
    | .inspect => (.shown h.cell.inspect, h)
    | .clone => (.done, { h with held := h.held ++ [true] })
    | .drop => (.done, { h with held := h.held.set i false })
  else (.gone, h)

def run (h : Handles α) : List (HandleMove × Nat) → List (HandleAnswer α)
  | [] => []
  | (m, i) :: ms => (h.step m i).1 :: (h.step m i).2.run ms

end Handles

end Refetch

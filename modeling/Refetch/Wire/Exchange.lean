import Refetch.Scenario.Run
import Refetch.Wire.Arrival
import Refetch.Wire.Redirect
/-!
# Exchanges with a scripted server

A server answers the requests that reach it one after the other, and closes the connection after
each answer:

* `travel`         a message and what it leads to;
* `Attempt`        one attempt: what arrived, and what came back;
* `direct`         so many attempts with one request;
* `guarded`        one request through a stage, its body collected.
-/

namespace Refetch.Wire

/-! ## attempts -/

structure Attempt where
  arrived : List Arrived
  outcome : Except Trouble (Response (Bytes × Bool))

def Attempt.after (a : Arrived) (t : Attempt) : Attempt := { t with arrived := a :: t.arrived }

/-- a message against a server with these answers left, and the answers that are left then -/
def travel (j : Journey) : List Served → Attempt × List Served
  | [] => (⟨[], .error .unsent⟩, [])
  | s :: rest =>
    match j.message.arrive? with
    | none => (⟨[], .error .unsent⟩, s :: rest)
    | some a =>
      match s.response? j.method with
      | none => (⟨[a], .error .unsent⟩, rest)
      | some r =>
        match j.next r.status r.fields with
        | .arrived => (⟨[a], .ok r⟩, rest)
        | .lost t => (⟨[a], .error t⟩, rest)
        | .onward j => ((travel j rest).1.after a, (travel j rest).2)

/-- one attempt against a server with these answers left -/
def attempt (r : Request) (cell : SinglePass (List StreamItem)) (answers : List Served) :
    Attempt × SinglePass (List StreamItem) × List Served :=
  match build r cell with
  | (.error e, cell) => (⟨[], .error (.refused e)⟩, cell, answers)
  | (.ok m, cell) => ((travel (.start m) answers).1, cell, (travel (.start m) answers).2)

/-- so many attempts with one request, one after the other -/
def direct (r : Request) : Nat → SinglePass (List StreamItem) → List Served → List Attempt
  | 0, _, _ => []
  | n + 1, cell, answers =>
    let (a, cell, answers) := attempt r cell answers
    a :: direct r n cell answers

/-! ## through a stage -/

def Trouble.failure : Trouble → Failure
  | .refused r => .foreign r.text
  | .unsent => .foreign "error sending request"
  | .astray => .foreign "error following redirect"

/-- what a client reads, as the script of a source -/
def sourceScript (read : Bytes × Bool) : List Scenario.SourceAction :=
  (if read.1.isEmpty then [] else [.chunk read.1]) ++
    (if read.2 then [] else [.fail (.foreign "error decoding response body")])

/-- an attempt, as the script of a call -/
def Attempt.script (a : Attempt) : List Scenario.CallAction :=
  match a.outcome with
  | .ok r => [.respond ⟨some r.status, r.fields, r.body.map sourceScript, some r.ok⟩]
  | .error t => [.fail t.failure]

structure Guarded where
  arrived : List Arrived
  delivered : Scenario.Report
  collected : Option Scenario.Report

/-- the request that a scenario makes of another one; a stream payload is a script of no use -/
def execution (r : Request) : Scenario.Execution where
  method := r.method
  url := r.url
  fields := r.fields
  upload := if r.payload.isReplayable then .whole r.payload else .stream []
  active := false
  requestId := .drawn 0
  requestSignal := .absent
  contextSignal := .absent

/-- one request through a stage, its body collected -/
def guarded (config : Config) (r : Request) (items : List StreamItem) (answers : List Served) :
    Guarded :=
  let attempts := direct r (answers.length + 2) (.new items) answers
  let out := Scenario.run ⟨config, [], .lazy, .record, attempts.map Attempt.script,
    [.execute "body" (execution r), .collect "body"]⟩
  let made := attempts.take (attempts.length - out.unused)
  let reports := out.steps.map Prod.fst
  let delivered := reports.headD .nothing
  let hasBody := match delivered with
    | .delivered d => d.body.isSome
    | _ => false
  ⟨made.flatMap Attempt.arrived, delivered, if hasBody then reports[1]? else none⟩

end Refetch.Wire

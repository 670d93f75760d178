import Mathlib.Data.List.GetD
import Mathlib.Data.List.Induction
import Refetch.Proofs.Driver.Session
import Refetch.Proofs.Wire.Message
import Refetch.Wire.Exchange
/-!
# Attempts with the copies of a request

A request is copied and attempted in any order; the copies share the cell of its stream:

* `Network`           what answers a message; `served` is the scripted server as one;
* `Copies`            the copies of a request, and what came of the attempts with them;
* `Copies.attempt`    one attempt: a message is built, and goes over the network;
* `Copies.after`      the copies after a list of moves;
* `cellAfter`, `builds`   what so many attempts leave in the cell, and what they build;
* `Stands`            how the copies stand after so many attempts;
* `stands_after`      after any moves they stand so.

Whether an attempt is made with the first copy or with the last makes no difference.
-/

namespace Refetch.Wire

/-- what a call of the transport comes to -/
abbrev Reply := Fallible (Except Failure (Response Source))

/-- what answers a message, and how it stands then -/
abbrev Network (ν : Type) := ν → Outgoing → Reply × ν

/-- what comes back to a caller whose request makes no message -/
def refusal (e : Refusal) : Reply := .ok (.error (Trouble.refused e).failure)

/-! ## what is built -/

theorem message_replayable {r : Request} (h : r.payload.isReplayable = true)
    (items items' : Option (List StreamItem)) : message r items = message r items' := by
  have hcontent : payloadContent r.fields items r.payload
      = payloadContent r.fields items' r.payload := by
    cases hp : r.payload with
    | stream cell =>
      rw [hp] at h
      cases h
    | _ => rfl
  unfold message
  rw [hcontent]

theorem build_replayable {r : Request} (h : r.payload.isReplayable = true)
    (cell : SinglePass (List StreamItem)) : build r cell = (message r none, cell) := by
  unfold build
  split
  · rename_i hp
    rw [hp] at h
    cases h
  · rfl

theorem build_stream {r : Request} (h : r.payload.isReplayable = false)
    (cell : SinglePass (List StreamItem)) : build r cell = (message r cell.content, ⟨none⟩) := by
  unfold build
  split
  · rfl
  · rename_i hn
    cases hp : r.payload with
    | stream cell => exact absurd hp (hn cell)
    | _ =>
      rw [hp] at h
      cases h

theorem message_taken {r : Request} (h : r.payload.isReplayable = false) :
    message r none = .error .alreadyTaken := by
  cases hp : r.payload with
  | stream cell => exact (message_eq_error_iff r none _).mpr (.payload (.alreadyTaken hp rfl))
  | _ =>
    rw [hp] at h
    cases h

theorem content_stream {r : Request} {items : List StreamItem} {m : Outgoing}
    (h : r.payload.isReplayable = false) (hm : message r (some items) = .ok m) :
    m.content = .streamed items := by
  have hcarries := (verbatim_of_message hm).content
  cases hp : r.payload with
  | stream cell =>
    rw [hp] at hcarries
    generalize m.content = content at hcarries
    cases hcarries with
    | stream cell hitems =>
      cases hitems
      rfl
  | _ =>
    rw [hp] at h
    cases h

/-! ## copies -/

/-- the copies of a request with their cell, and what came of the attempts with them -/
structure Copies (ν : Type) where
  first : Request
  others : List Request
  cell : SinglePass (List StreamItem)
  network : ν
  built : List (Except Refusal Outgoing)
  sent : List Outgoing

/-- a move with the copy at a place, counted round -/
inductive CopyMove where
  | clone (i : Nat)
  | attempt (i : Nat)

def CopyMove.isAttempt : CopyMove → Bool
  | .attempt _ => true
  | .clone _ => false

def attempts (ms : List CopyMove) : Nat := ms.countP CopyMove.isAttempt

namespace Copies

variable {ν : Type}

/-- a request of which there are no copies yet; the cell of its stream is full -/
def start (r : Request) (items : List StreamItem) (s : ν) : Copies ν :=
  ⟨r, [], .new items, s, [], []⟩

def all (c : Copies ν) : List Request := c.first :: c.others

def pick (c : Copies ν) (i : Nat) : Request := c.all.getD (i % c.all.length) c.first

/-- an attempt with this request: its message goes over the network, if it makes one -/
def attempt (send : Network ν) (c : Copies ν) (r : Request) : Reply × Copies ν :=
  match build r c.cell with
  | (.ok m, cell) =>
    ((send c.network m).1, { c with
      cell := cell
      network := (send c.network m).2
      built := c.built ++ [.ok m]
      sent := c.sent ++ [m] })
  | (.error e, cell) => (refusal e, { c with cell := cell, built := c.built ++ [.error e] })

def step (send : Network ν) (c : Copies ν) : CopyMove → Copies ν
  | .clone i => { c with others := c.others ++ [c.pick i] }
  | .attempt i => (c.attempt send (c.pick i)).2

def after (send : Network ν) (c : Copies ν) (ms : List CopyMove) : Copies ν :=
  ms.foldl (step send) c

theorem after_snoc (send : Network ν) (c : Copies ν) (ms : List CopyMove) (m : CopyMove) :
    c.after send (ms ++ [m]) = (c.after send ms).step send m := List.foldl_append

theorem attempt_ok {send : Network ν} {c : Copies ν} {r : Request} {m : Outgoing}
    (h : (build r c.cell).1 = .ok m) :
    c.attempt send r = ((send c.network m).1, ⟨c.first, c.others, (build r c.cell).2,
      (send c.network m).2, c.built ++ [.ok m], c.sent ++ [m]⟩) := by
  unfold attempt
  generalize build r c.cell = x at h
  obtain ⟨_, cell⟩ := x
  cases h
  rfl

theorem attempt_error {send : Network ν} {c : Copies ν} {r : Request} {e : Refusal}
    (h : (build r c.cell).1 = .error e) :
    c.attempt send r = (refusal e, ⟨c.first, c.others, (build r c.cell).2, c.network,
      c.built ++ [.error e], c.sent⟩) := by
  unfold attempt
  generalize build r c.cell = x at h
  obtain ⟨_, cell⟩ := x
  cases h
  rfl

end Copies

/-! ## the scripted server -/

/-- what a client reads of a body, as a source -/
def readSource (read : Bytes × Bool) : Source :=
  ⟨if read.1.isEmpty then [] else [read.1],
    if read.2 then .clean else .failure (.foreign "error decoding response body")⟩

/-- the outcome of an attempt, as a reply -/
def answered : Except Trouble (Response (Bytes × Bool)) → Reply
  | .ok r => .ok (.ok ⟨r.ok, r.status, r.fields, r.body.map readSource⟩)
  | .error t => .ok (.error t.failure)

/-- the scripted server, with the answers it has left -/
def served : Network (List Served) := fun answers m =>
  (answered (travel (.start m) answers).1.outcome, (travel (.start m) answers).2)

/-- over the scripted server an attempt is what it is in an exchange -/
theorem attempt_served (c : Copies (List Served)) (r : Request) :
    (c.attempt served r).1 = answered (attempt r c.cell c.network).1.outcome ∧
      (c.attempt served r).2.cell = (attempt r c.cell c.network).2.1 ∧
      (c.attempt served r).2.network = (attempt r c.cell c.network).2.2 := by
  unfold attempt
  generalize hb : build r c.cell = x
  obtain ⟨e | m, cell⟩ := x
  · rw [Copies.attempt_error (by rw [hb]), hb]
    exact ⟨rfl, rfl, rfl⟩
  · rw [Copies.attempt_ok (by rw [hb]), hb]
    exact ⟨rfl, rfl, rfl⟩

/-! ## how the copies stand -/

section
variable {ν : Type} {send : Network ν} {s : ν} {r : Request} {items : List StreamItem} {n : Nat}
  {c : Copies ν}

/-- the network after these messages, and no others -/
def networkAfter (send : Network ν) (s : ν) (ms : List Outgoing) : ν :=
  ms.foldl (fun s m => (send s m).2) s

theorem networkAfter_snoc (send : Network ν) (s : ν) (ms : List Outgoing) (m : Outgoing) :
    networkAfter send s (ms ++ [m]) = (send (networkAfter send s ms) m).2 := List.foldl_append

/-- the cell after so many attempts -/
def cellAfter (r : Request) (items : List StreamItem) (n : Nat) : SinglePass (List StreamItem) :=
  if r.payload.isReplayable || n == 0 then .new items else ⟨none⟩

/-- what so many attempts build: what the first one builds, or refusals behind it -/
def builds (r : Request) (items : List StreamItem) : Nat → List (Except Refusal Outgoing)
  | 0 => []
  | n + 1 => message r (some items) :: List.replicate n
      (if r.payload.isReplayable then message r (some items) else .error .alreadyTaken)

theorem cellAfter_zero (r : Request) (items : List StreamItem) :
    cellAfter r items 0 = .new items := by
  rw [cellAfter, beq_self_eq_true, Bool.or_true]
  rfl

theorem cellAfter_replayable (hr : r.payload.isReplayable = true) (n : Nat) :
    cellAfter r items n = .new items := by
  rw [cellAfter, hr]
  rfl

theorem cellAfter_taken (hr : r.payload.isReplayable = false) (n : Nat) :
    cellAfter r items (n + 1) = ⟨none⟩ := by
  rw [cellAfter, hr]
  rfl

theorem builds_replayable (hr : r.payload.isReplayable = true) (n : Nat) :
    builds r items n = List.replicate n (message r (some items)) := by
  cases n with
  | zero => rfl
  | succ n =>
    rw [builds, hr, if_pos rfl]
    rfl

theorem builds_stream (hr : r.payload.isReplayable = false) (n : Nat) :
    builds r items (n + 1) = message r (some items) :: List.replicate n (.error .alreadyTaken) := by
  rw [builds, hr, if_neg Bool.false_ne_true]

/-- the next attempt builds what comes next, and leaves the cell as it should be then -/
theorem build_cellAfter (r : Request) (items : List StreamItem) (n : Nat) :
    builds r items (n + 1) = builds r items n ++ [(build r (cellAfter r items n)).1] ∧
      (build r (cellAfter r items n)).2 = cellAfter r items (n + 1) := by
  cases hr : r.payload.isReplayable with
  | true =>
    rw [build_replayable hr, message_replayable hr none (some items), builds_replayable hr,
      builds_replayable hr, cellAfter_replayable hr, cellAfter_replayable hr]
    exact ⟨List.replicate_succ', rfl⟩
  | false =>
    rw [build_stream hr, cellAfter_taken hr]
    refine ⟨?_, rfl⟩
    cases n with
    | zero =>
      rw [cellAfter_zero]
      rfl
    | succ n =>
      rw [cellAfter_taken hr, message_taken hr, builds_stream hr, builds_stream hr,
        List.replicate_succ']
      rfl

/-- how the copies stand after so many attempts: all are the request as it was, the cell is full
unless it went with the first attempt, and the network got the messages that were built -/
structure Stands (send : Network ν) (s : ν) (r : Request) (items : List StreamItem) (n : Nat)
    (c : Copies ν) : Prop where
  copies : ∀ r' ∈ c.all, r' = r
  cell : c.cell = cellAfter r items n
  built : c.built = builds r items n
  sent : c.sent = c.built.filterMap Except.toOption
  network : c.network = networkAfter send s c.sent

theorem stands_start (send : Network ν) (r : Request) (items : List StreamItem) (s : ν) :
    Stands send s r items 0 (Copies.start r items s) where
  copies _ h := List.mem_singleton.mp h
  cell := (cellAfter_zero r items).symm
  built := rfl
  sent := rfl
  network := rfl

namespace Stands

theorem pick (h : Stands send s r items n c) (i : Nat) : c.pick i = r := by
  refine h.copies _ ?_
  have hlt : i % c.all.length < c.all.length := Nat.mod_lt i (Nat.succ_pos c.others.length)
  rw [Copies.pick, List.getD_eq_getElem _ _ hlt]
  exact List.getElem_mem hlt

theorem clone (h : Stands send s r items n c) (i : Nat) :
    Stands send s r items n (c.step send (.clone i)) where
  copies r' hr' := by
    rcases List.mem_append.mp (show r' ∈ c.all ++ [c.pick i] from hr') with hr' | hr'
    · exact h.copies r' hr'
    · rw [List.mem_singleton.mp hr']
      exact h.pick i
  cell := h.cell
  built := h.built
  sent := h.sent
  network := h.network

theorem attempt (h : Stands send s r items n c) :
    Stands send s r items (n + 1) (c.attempt send r).2 := by
  obtain ⟨hbuilds, hcell⟩ := build_cellAfter r items n
  rw [← h.built, ← h.cell] at hbuilds
  rw [← h.cell] at hcell
  cases hb : (build r c.cell).1 with
  | ok m =>
    rw [hb] at hbuilds
    rw [Copies.attempt_ok hb]
    refine ⟨h.copies, hcell, hbuilds.symm, ?_, ?_⟩
    · show c.sent ++ [m] = _
      rw [h.sent, List.filterMap_append]
      rfl
    · show (send c.network m).2 = networkAfter send s (c.sent ++ [m])
      rw [networkAfter_snoc, ← h.network]
  | error e =>
    rw [hb] at hbuilds
    rw [Copies.attempt_error hb]
    refine ⟨h.copies, hcell, hbuilds.symm, ?_, h.network⟩
    show c.sent = _
    rw [h.sent, List.filterMap_append]
    exact (List.append_nil _).symm

theorem step (h : Stands send s r items n c) (m : CopyMove) :
    Stands send s r items (n + attempts [m]) (c.step send m) := by
  cases m with
  | clone i => exact h.clone i
  | attempt i =>
    rw [Copies.step, h.pick i]
    exact h.attempt

end Stands

/-- however a request is copied and attempted, its copies stand by the number of attempts -/
theorem stands_after (send : Network ν) (r : Request) (items : List StreamItem) (s : ν)
    (ms : List CopyMove) :
    Stands send s r items (attempts ms) ((Copies.start r items s).after send ms) := by
  induction ms using List.reverseRecOn with
  | nil => exact stands_start send r items s
  | append_singleton ms m ih =>
    rw [Copies.after_snoc, attempts, List.countP_append]
    exact ih.step m

end

end Refetch.Wire

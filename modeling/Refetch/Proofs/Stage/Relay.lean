import Refetch.Proofs.Stage.Acts
/-!
# Stages under a mark

A stage that is called with the mark makes one call and hands its outcome on:

* `Cause.relayed`, `Failure.relayed`   a failure that one stage after the other has wrapped;
* `Feed.relayed`, `relayedOutcome`     a body, and what a call comes to, handed on so;
* `Program.under n`                    a program whose calls go through `n` marked stages;
* `Stage.stack_active`                 marked stages over the transport, as such a program;
* `Stage.execute_stack`                a stage over other stages, as such a program.

So only the outermost stage decides anything, since it hands the mark down.
-/

namespace Refetch

/-- a cause that one stage after the other has wrapped -/
def Cause.relayed (wrap : Cause → StageError) : Nat → Cause → Cause
  | 0, c => c
  | n + 1, c => .staged (wrap (c.relayed wrap n))

/-- a failure that one stage after the other has wrapped; the first brings it to normal form -/
def Failure.relayed (wrap : Cause → StageError) : Nat → Failure → Failure
  | 0, f => f
  | n + 1, f => .staged (wrap (f.relayed wrap n).normalize)

theorem Failure.normalize_relayed (wrap : Cause → StageError) (n : Nat) (f : Failure) :
    (f.relayed wrap n).normalize = f.normalize.relayed wrap n := by
  induction n with
  | zero => rfl
  | succ n ih =>
    change Cause.staged (wrap (f.relayed wrap n).normalize) = _
    rw [ih]
    rfl

/-- a text after so many copies of a prefix -/
def prefixed (p : String) : Nat → String → String
  | 0, s => s
  | n + 1, s => p ++ prefixed p n s

/-- a wrapper that puts a text before the message makes each stage put it there -/
theorem Cause.message_relayed {wrap : Cause → StageError} {p : String}
    (hp : ∀ c, (wrap c).text = p ++ c.message) (hne : p ≠ "") (n : Nat) (c : Cause) :
    (c.relayed wrap n).message = prefixed p n c.message := by
  induction n with
  | zero => rfl
  | succ n ih =>
    have htext : (wrap (c.relayed wrap n)).text = p ++ prefixed p n c.message := by rw [hp, ih]
    have hsome : (p ++ prefixed p n c.message).isEmpty = false := by
      simp [hne]
    change named (wrap (c.relayed wrap n)).text = p ++ prefixed p n c.message
    rw [htext, named, hsome]
    rfl

example : ((Cause.stated "gone").relayed .stream 2).message
    = "body stream failed: body stream failed: gone" := by decide

/-- a body that one stage after the other has passed through -/
def Feed.relayed : Nat → Feed → Feed
  | 0, f => f
  | n + 1, f => .through (f.relayed n)

def Response.relayed (n : Nat) (resp : Response Feed) : Response Feed :=
  { resp with body := resp.body.map (Feed.relayed n) }

/-- what a call comes to after one stage after the other has handed it on -/
def relayedOutcome (n : Nat) : Outcome → Outcome
  | .ok resp => .ok (resp.relayed n)
  | .error f => .error (f.relayed .dispatch n)

theorem relayedOutcome_zero (o : Outcome) : relayedOutcome 0 o = o := by
  cases o with
  | error f => rfl
  | ok resp =>
    have hid : Feed.relayed 0 = id := rfl
    simp only [relayedOutcome, Response.relayed, hid, Option.map_id, id]

/-- one more marked stage hands an outcome on -/
theorem outcome_received (n : Nat) (o : Outcome) :
    (Stage.received (relayedOutcome n o) fun resp => .done (.ok (.passed resp))).map Stage.outcomeOf
      = .done (relayedOutcome (n + 1) o) := by
  cases o with
  | error f => rfl
  | ok resp =>
    have hbody : ((resp.body.map (Feed.relayed n)).map Body.unwrapped).map Stage.feedOf
        = resp.body.map (Feed.relayed (n + 1)) := by
      rw [Option.map_map, Option.map_map]
      rfl
    exact congrArg (fun body => Program.done
      (Except.ok (⟨resp.ok, resp.status, resp.fields, body⟩ : Response Feed))) hbody

/-- a program whose calls go through so many marked stages -/
def Program.under {α : Type} (n : Nat) : Program α → Program α
  | .done a => .done a
  | .call r c k => .call r c fun o => (k (relayedOutcome n o)).under n
  | .spawn a k => .spawn a fun out => (k out).under n

/-- an act, as it is heard of through so many marked stages -/
def Act.heard (n : Nat) : Act → Act
  | .called r c o => .called r c (relayedOutcome n o)
  | .started a out => .started a out

def Called.heard (n : Nat) (x : Called) : Called :=
  { x with outcome := relayedOutcome n x.outcome }

theorem called_heard (n : Nat) (acts : List Act) :
    called (acts.map (Act.heard n)) = (called acts).map (Called.heard n) := by
  induction acts with
  | nil => rfl
  | cons x acts ih =>
    cases x with
    | called r c o => exact congrArg (Called.mk r c (relayedOutcome n o) :: ·) ih
    | started a out => exact ih

theorem started_heard (n : Nat) (acts : List Act) :
    started (acts.map (Act.heard n)) = started acts := by
  induction acts with
  | nil => rfl
  | cons x acts ih =>
    cases x with
    | called r c o => exact ih
    | started a out => exact congrArg ((a, out) :: ·) ih

/-- a program through marked stages does what it would do if it heard what they say -/
theorem Program.does_under {α : Type} (n : Nat) (p : Program α) (acts : List Act) (a : α) :
    (p.under n).Does acts a ↔ p.Does (acts.map (Act.heard n)) a := by
  induction p generalizing acts with
  | done b =>
    change (Program.done b).Does acts a ↔ _
    rw [does_done, does_done, List.map_eq_nil_iff]
  | call r c k ih =>
    change (Program.call r c fun o => (k (relayedOutcome n o)).under n).Does acts a ↔ _
    rw [does_call, does_call]
    constructor
    · rintro ⟨o, rest, rfl, h⟩
      exact ⟨_, _, rfl, (ih _ rest).mp h⟩
    · rintro ⟨o', rest', hacts, h⟩
      obtain ⟨x, rest, rfl, hx, rfl⟩ := List.map_eq_cons_iff.mp hacts
      cases x with
      | called r' c' o =>
        cases hx
        exact ⟨o, rest, rfl, (ih _ rest).mpr h⟩
      | started _ _ => cases hx
  | spawn x k ih =>
    change (Program.spawn x fun out => (k out).under n).Does acts a ↔ _
    rw [does_spawn, does_spawn]
    constructor
    · rintro ⟨out, rest, rfl, h⟩
      exact ⟨out, _, rfl, (ih out rest).mp h⟩
    · rintro ⟨out, rest', hacts, h⟩
      obtain ⟨y, rest, rfl, hy, rfl⟩ := List.map_eq_cons_iff.mp hacts
      cases y with
      | called _ _ _ => cases hy
      | started a' out' =>
        cases hy
        exact ⟨out, rest, rfl, (ih out rest).mpr h⟩

namespace Stage

/-- under the mark, stages one inside the other make one call and hand its outcome on -/
theorem stack_active (inner : List Config) (r : Request) {c : Context} (hc : c.active = true) :
    stack inner r c = (dispatch r c).under inner.length := by
  induction inner with
  | nil =>
    change Program.call r c .done = .call r c fun o => .done (relayedOutcome 0 o)
    congr
    funext o
    rw [relayedOutcome_zero]
  | cons config inner ih =>
    change (execute config (stack inner) r c).map outcomeOf = _
    rw [execute, if_pos hc, ih]
    change Program.call r c (fun o => (received (relayedOutcome inner.length o)
      fun resp => .done (.ok (.passed resp))).map outcomeOf) = _
    simp only [outcome_received]
    rfl

theorem under_received {k : Response Feed → Program Executed} {n : Nat} (o : Outcome)
    (hk : ∀ resp, (k resp).under n = k resp) : (received o k).under n = received o k := by
  cases o with
  | error f => rfl
  | ok resp => exact hk resp

theorem under_deliver (p : Policy) (r : Request) (c : Context) (n : Nat) (resp : Response Feed) :
    (deliver p r c resp).under n = deliver p r c resp := by
  unfold deliver
  split <;> rfl

/-- a stage over other stages is the stage over the transport, seen through them -/
theorem execute_stack (config : Config) (inner : List Config) (r : Request) (c : Context) :
    execute config (stack inner) r c = (execute config dispatch r c).under inner.length := by
  unfold execute
  cases hc : c.active with
  | true =>
    rw [if_pos rfl, if_pos rfl, stack_active inner r hc]
    change Program.call r c _ = Program.call r c _
    congr
    funext o
    exact (under_received _ fun _ => rfl).symm
  | false =>
    rw [if_neg Bool.false_ne_true, if_neg Bool.false_ne_true]
    cases Gate.check r config with
    | error e => rfl
    | ok p =>
      dsimp only
      rw [stack_active inner r (c := c.wrapped) rfl]
      change Program.call r c.wrapped _ = Program.call r c.wrapped _
      congr
      funext o
      exact (under_received _ (under_deliver p r c.wrapped _)).symm

end Stage

end Refetch

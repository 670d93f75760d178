import Refetch.Stage
import Refetch.Proofs.Driver.Session
import Refetch.Proofs.Http.Promise
/-!
# One header value decides

The length that a response promises decides twice: whether its body gets a driver at all, and below
which count the driver takes its end for a premature one.

* `Response.Edited`       two responses whose headers differ, but not in the first length;
* `Surroundings.Edited`   surroundings whose transport gives such responses;
* `iterate_edited`        a driver does the same in both, step by step;
* `promised_by_first`     the promise is read off the first length alone, and so is what hangs on it.
-/

namespace Refetch

open Http (Edit Promises ValueStates firstLength? expectedLength exceeds)
open Relation (ReflTransGen)

/-- two responses that differ in their headers alone, and not in the first length -/
structure Response.Edited {σ : Type} (r r' : Response σ) : Prop where
  ok : r'.ok = r.ok
  status : r'.status = r.status
  body : r'.body = r.body
  header : ∃ ps qs, Http.Fields.ofList? ps = some r.fields ∧
    Http.Fields.ofList? qs = some r'.fields ∧ ReflTransGen Edit ps qs

namespace Response.Edited

variable {σ : Type} {r r' : Response σ}

theorem expectedLength (h : r.Edited r') (m : Http.Method) :
    r'.expectedLength m = r.expectedLength m := by
  obtain ⟨ps, qs, hps, hqs, hedits⟩ := h.header
  rw [Response.expectedLength, h.status]
  exact Http.expectedLength_eq_of_first hps hqs (Http.firstLength?_edits hedits) m r.status

theorem onResponse (h : r.Edited r') (d : Driver σ) : d.onResponse r' = d.onResponse r := by
  unfold Driver.onResponse
  rw [h.ok, h.body, h.status, h.expectedLength]

theorem react (h : r.Edited r') (now : Moment) (d : Driver σ) :
    d.react now (.responded (.ok r')) = d.react now (.responded (.ok r)) := by
  unfold Driver.react
  cases d.point with
  | dispatching =>
    show (if now.closed then (d.quit.1, r'.body) else d.onResponse r')
      = if now.closed then (d.quit.1, r.body) else d.onResponse r
    rw [h.body, h.onResponse d]
  | _ => rfl

end Response.Edited

theorem assignment?_edited {r r' : Response Feed} (h : r.Edited r') (p : Policy) (req : Request)
    (c : Context) : Stage.assignment? p req c r' = Stage.assignment? p req c r := by
  unfold Stage.assignment?
  rw [h.ok, h.body, h.expectedLength]

/-! ## whole runs -/

/-- two replies of a transport, of which only the headers may differ, and not in the first length -/
inductive Fallible.Edited : Fallible (Except Failure (Response Source)) →
    Fallible (Except Failure (Response Source)) → Prop where
  | response (r r' : Response Source) (h : r.Edited r') : Edited (.ok (.ok r)) (.ok (.ok r'))
  | same (x : Fallible (Except Failure (Response Source))) : Edited x x

/-- surroundings that differ in the headers of the responses, and not in a first length -/
structure Surroundings.Edited (w w' : Surroundings) : Prop where
  logs : w'.logs = w.logs
  aborts : w'.aborts = w.aborts
  replies : ∀ n, Fallible.Edited (w.replies.get n) (w'.replies.get n)

namespace Session

/-- two sessions that differ in what the transport will say, by headers alone -/
structure Edited (s t : Session) : Prop where
  driver : t.driver = s.driver
  notes : t.notes = s.notes
  around : s.around.Edited t.around

theorem takenUp_edited (d : Driver Source) (m : Http.Method)
    {x y : Fallible (Except Failure (Response Source))} (h : Fallible.Edited x y) :
    takenUp d m y = takenUp d m x := by
  cases h with
  | same x => rfl
  | response r r' h =>
    show (d.source.toList.map fun src => Note.began ⟨src, r'.expectedLength m⟩)
      = d.source.toList.map fun src => .began ⟨src, r.expectedLength m⟩
    rw [h.expectedLength]

variable {s t : Session}

theorem told_edited (h : s.Edited t) (d : Driver Source) (a : Answer Source) :
    t.told d a = s.told d a := by
  rw [told, told, h.around.aborts]

theorem told_reply_edited (h : s.Edited t) (d : Driver Source) :
    t.told d (Fallible.answer .responded t.around.replies.head)
      = s.told d (Fallible.answer .responded s.around.replies.head) := by
  rw [told_edited h]
  have hreply : Fallible.Edited s.around.replies.head t.around.replies.head := h.around.replies 0
  generalize s.around.replies.head = x at hreply
  generalize t.around.replies.head = y at hreply
  cases hreply with
  | same x => rfl
  | response r r' hr => exact congrArg Prod.fst (hr.react _ d)

theorem call_edited (h : s.Edited t) (r : Request) (c : Context) : (s.call r c).Edited (t.call r c) := by
  have hreply : Fallible.Edited s.around.replies.head t.around.replies.head := h.around.replies 0
  have htold := told_reply_edited h s.driver
  refine ⟨?_, ?_, h.around.logs, h.around.aborts, fun n => ?_⟩
  · show t.told t.driver _ = s.told s.driver _
    rw [h.driver, htold]
  · show t.notes ++ _ ++ takenUp (t.told t.driver _) r.method _ = s.notes ++ _ ++ takenUp _ _ _
    rw [h.driver, h.notes, htold, takenUp_edited _ _ hreply]
  · exact h.around.replies (n + 1)

theorem read_edited (h : s.Edited t) (src : Source) : (s.read src).Edited (t.read src) := by
  unfold read
  cases src.chunks with
  | nil =>
    refine ⟨?_, h.notes, h.around.logs, ?_, h.around.replies⟩
    · show t.told t.driver _ = s.told s.driver _
      rw [h.driver, told_edited h]
    · exact congrArg Stream'.tail h.around.aborts
  | cons c cs =>
    refine ⟨?_, h.notes, h.around⟩
    show t.told { t.driver with source := _ } _ = s.told { s.driver with source := _ } _
    rw [h.driver, told_edited h]

theorem log_edited (h : s.Edited t) (r : LogRecord) : (s.log r).Edited (t.log r) := by
  have hlogs := h.around.logs
  refine ⟨?_, ?_, congrArg Stream'.tail hlogs, h.around.aborts, h.around.replies⟩
  · show t.told t.driver _ = s.told s.driver _
    rw [h.driver, told_edited h, hlogs]
  · show t.notes ++ _ = s.notes ++ _
    rw [h.notes, hlogs]

theorem step_edited (h : s.Edited t) : s.step.Edited t.step := by
  unfold step
  rw [h.driver]
  cases s.driver.ask false with
  | item src => exact read_edited h src
  | log r => exact log_edited h r
  | response r c => exact call_edited h r c
  | room i =>
    refine ⟨told_edited h _ _, ?_, h.around⟩
    show t.notes ++ _ = s.notes ++ _
    rw [h.notes]
  | pause d =>
    refine ⟨told_edited h _ _, ?_, h.around⟩
    show t.notes ++ _ = s.notes ++ _
    rw [h.notes]
  | word => exact h
  | nothing => exact h

theorem iterate_edited (h : s.Edited t) (n : Nat) : (step^[n] s).Edited (step^[n] t) := by
  induction n with
  | zero => exact h
  | succ n ih =>
    rw [Function.iterate_succ_apply', Function.iterate_succ_apply']
    exact step_edited ih

end Session

/-- **One header value decides.**  A response promises `n` bytes if and only if its method and status
let it carry a body and the first value named for the length, in any letter case, states `n`; where
that value states nothing, nothing is promised.  So a header can be changed in any way that leaves
this value the first: the promise, its comparison with a ceiling, the start of a driver with the
count below which an end is premature, and all that drivers do later on stay what they are. -/
theorem promised_by_first :
    (∀ ps fs, Http.Fields.ofList? ps = some fs → ∀ m s,
      (∀ n, expectedLength m s fs = some n ↔ Promises m s ps n) ∧
      ∀ v, firstLength? ps = some v → (∀ n, ¬ ValueStates v n) → expectedLength m s fs = none) ∧
    (∀ ps qs fs gs, Http.Fields.ofList? ps = some fs → Http.Fields.ofList? qs = some gs →
      ReflTransGen Edit ps qs → ∀ m s c, expectedLength m s gs = expectedLength m s fs ∧
        exceeds (expectedLength m s gs) c = exceeds (expectedLength m s fs) c) ∧
    (∀ (r r' : Response Feed), r.Edited r' → ∀ p req c,
      Stage.assignment? p req c r' = Stage.assignment? p req c r) ∧
    ∀ a (w w' : Surroundings), w.Edited w' → ∀ n,
      (Session.step^[n] (.start a w')).driver = (Session.step^[n] (.start a w)).driver ∧
      (Session.step^[n] (.start a w')).notes = (Session.step^[n] (.start a w)).notes := by
  refine ⟨fun ps fs hps m s => ?_, fun ps qs fs gs hps hqs hedits m s c => ?_,
    fun r r' hr p req c => assignment?_edited hr p req c, fun a w w' hw n => ?_⟩
  · have hiff := Http.expectedLength_iff hps m s
    refine ⟨hiff, fun v hv hnone => ?_⟩
    rw [Option.eq_none_iff_forall_not_mem]
    intro n hn
    obtain ⟨v', hv', hstates⟩ := ((hiff n).mp hn).first
    rw [hv, Option.some.injEq] at hv'
    exact hnone n (by rwa [hv'])
  · have heq := Http.expectedLength_eq_of_first hps hqs (Http.firstLength?_edits hedits) m s
    exact ⟨heq, by rw [heq]⟩
  · have hall := Session.iterate_edited (s := .start a w) (t := .start a w') ⟨rfl, rfl, hw⟩ n
    exact ⟨hall.driver, hall.notes⟩

/-- the first length counts, also if it states nothing -/
example :
    (Http.Fields.ofList? [("Content-LENGTH", [0x20, 0x37]), ("content-length", [0x39])]).map
        (expectedLength .get .ok) = some (some 7) ∧
      (Http.Fields.ofList? [("Content-Length", [0x2B, 0x37]), ("content-length", [0x39])]).map
        (expectedLength .get .ok) = some none := by decide +kernel

end Refetch

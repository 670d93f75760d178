import Refetch.Proofs.Driver.Outcome
import Refetch.Proofs.Scenario.Outermost
/-!
# A body that is passed through

A response that promises more than the ceiling gets no driver.  Its consumer reads what a driver
would have handed out, had one been started on the same body.

* `Gives`                what a body gives when it is asked again and again;
* `Draws`                what a consumer draws from a body that was handed out;
* `World.transport`      what the transport was asked so far, and what it has left;
* `Gives.draws`          a body that is passed through hands on what it gives;
* `gives_of_script`      a scripted source, in any chunking, is given as it is written;
* `ends_of_outgrown`     what a driver hands out of an attempt above its ceiling;
* `passed_as_overflowed` the two hand out the same bytes and end alike.
-/

namespace Refetch

/-- the error that the end of a body raises, if it is a failure -/
def Ending.raised (wrap : Cause → StageError) : Ending → Option StageError
  | .failure g => some (wrap g.normalize)
  | .clean | .breakdown _ => none

/-- a body that keeps a promise of so many bytes, or fails above a ceiling -/
def Source.Outlasts (src : Source) (length ceiling : Nat) : Prop :=
  match src.ending with
  | .clean => length ≤ src.chunks.flatten.length
  | .failure _ => ceiling < src.chunks.flatten.length
  | .breakdown _ => False

namespace Scenario

variable {f : Feed} {b : Body} {w w₁ w' : World} {src : Source}

/-- a body, asked again and again, gives these chunks and comes to this end -/
inductive Gives (f : Feed) : World → Source → World → Prop where
  | finish {w w' : World} (h : pollFeed f w = (.ready .finish, w')) : Gives f w ⟨[], .clean⟩ w'
  | failure {w w' : World} {g : Failure} (h : pollFeed f w = (.ready (.failure g), w')) :
      Gives f w ⟨[], .failure g⟩ w'
  | chunk {w w₁ w' : World} {c : Bytes} {cs : List Bytes} {e : Ending}
      (h : pollFeed f w = (.ready (.chunk c), w₁)) (rest : Gives f w₁ ⟨cs, e⟩ w') :
      Gives f w ⟨c :: cs, e⟩ w'
  | later {w w₁ w' : World} {src : Source} (h : pollFeed f w = (.pending, w₁))
      (rest : Gives f w₁ src w') : Gives f w src w'

/-- a consumer that asks a body again and again draws these items, up to its end or an error -/
inductive Draws (b : Body) : World → List Item → World → Prop where
  | finish {w w' : World} (h : pollBody b w = (.ready none, w')) : Draws b w [] w'
  | failure {w w' : World} {e : StageError} (h : pollBody b w = (.ready (some (.error e)), w')) :
      Draws b w [.error e] w'
  | chunk {w w₁ w' : World} {c : Bytes} {items : List Item}
      (h : pollBody b w = (.ready (some (.ok c)), w₁)) (rest : Draws b w₁ items w') :
      Draws b w (.ok c :: items) w'
  | later {w w₁ w' : World} {items : List Item} (h : pollBody b w = (.pending, w₁))
      (rest : Draws b w₁ items w') : Draws b w items w'

theorem Draws.unique {items items' : List Item} {u : World} (h : Draws b w items w')
    (h' : Draws b w items' u) : items' = items ∧ u = w' := by
  -- each answer of the body leaves one way to go on
  induction h generalizing items' with
  | finish h =>
    cases h' with
    | finish h₂ =>
      cases h.symm.trans h₂
      exact ⟨rfl, rfl⟩
    | failure h₂ | chunk h₂ rest₂ | later h₂ rest₂ => cases h.symm.trans h₂
  | failure h =>
    cases h' with
    | failure h₂ =>
      cases h.symm.trans h₂
      exact ⟨rfl, rfl⟩
    | finish h₂ | chunk h₂ rest₂ | later h₂ rest₂ => cases h.symm.trans h₂
  | chunk h rest ih =>
    cases h' with
    | chunk h₂ rest₂ =>
      cases h.symm.trans h₂
      obtain ⟨rfl, rfl⟩ := ih rest₂
      exact ⟨rfl, rfl⟩
    | finish h₂ | failure h₂ | later h₂ rest₂ => cases h.symm.trans h₂
  | later h rest ih =>
    cases h' with
    | later h₂ rest₂ =>
      cases h.symm.trans h₂
      exact ih rest₂
    | finish h₂ | failure h₂ | chunk h₂ rest₂ => cases h.symm.trans h₂

/-! ## what is passed through -/

/-- the items of a body that is passed through -/
def passed (src : Source) : List Item :=
  src.chunks.map .ok ++ (src.ending.raised .stream).toList.map .error

theorem Gives.draws (h : Gives f w src w') : Draws (.unwrapped f) w (passed src) w' := by
  induction h with
  | finish h =>
    refine .finish ?_
    simp only [pollBody, h]
    rfl
  | failure h =>
    refine .failure ?_
    simp only [pollBody, h]
    rfl
  | chunk h rest ih =>
    refine .chunk ?_ ih
    simp only [pollBody, h]
    rfl
  | later h rest ih =>
    refine .later ?_ ih
    simp only [pollBody, h]
    rfl

/-! ## the transport meanwhile -/

namespace World

/-- what the transport was asked so far, and what it has left to answer -/
def transport (w : World) : List CallNote × List (List CallAction) :=
  (w.notes.filterMap Entry.call?, w.script)

theorem transport_note (w : World) {e : Entry} (h : e.call? = none) :
    (w.note e).transport = w.transport := by
  unfold transport note
  rw [List.filterMap_cons_none h]

theorem transport_rouse (w : World) (n : OutputId) : (w.rouse n).transport = w.transport := by
  unfold rouse
  split <;> rfl

theorem transport_closeOutput (w : World) (n : OutputId) :
    (w.closeOutput n).transport = w.transport :=
  transport_rouse _ n

theorem transport_release (w : World) (f : Feed) : (w.release f).transport = w.transport := by
  induction f with
  | source n => exact transport_note w rfl
  | output n => exact transport_closeOutput w n
  | through f ih => exact ih

theorem transport_dropBody (w : World) (b : Body) : (w.dropBody b).transport = w.transport := by
  cases b with
  | wrapped n => exact transport_closeOutput w n
  | unwrapped f => exact transport_release w f

theorem transport_perform (w : World) (d : Deed) : (w.perform d).2.transport = w.transport := by
  cases d with
  | close s =>
    show (w.close s).2.transport = _
    unfold close
    split
    · exact transport_closeOutput w _
    · rfl
    · rfl
  | drop s =>
    show (w.drop s).2.transport = _
    unfold drop
    split
    · exact transport_dropBody _ _
    · rfl
  | abort s which =>
    show (w.abort s which).2.transport = _
    unfold abort
    split <;> rfl

theorem transport_doDeed (w : World) (d : Deed) : (w.doDeed d).transport = w.transport :=
  (transport_note _ rfl).trans (transport_perform w d)

theorem transport_waitAtGate (w : World) (g : Gate) :
    (w.waitAtGate g).transport = w.transport := by
  unfold waitAtGate
  split
  · split <;> rfl
  · rfl

theorem transport_takeItem (w : World) (n : OutputId) (t : Task) (o : Output) :
    (w.takeItem n t o).transport = w.transport := by
  unfold takeItem
  dsimp only
  split
  · exact transport_rouse _ n
  · rfl

end World

theorem transport_pollSource (n : SourceId) (as : List SourceAction) (w : World) :
    (pollSource n as w).2.transport = w.transport := by
  induction as generalizing w with
  | nil => exact World.transport_note _ rfl
  | cons a rest ih =>
    have hset : (w.setSource n rest).transport = w.transport := rfl
    cases a with
    | chunk c => exact World.transport_note _ rfl
    | fail f => exact World.transport_note _ rfl
    | finish => exact World.transport_note _ rfl
    | breakDown b => exact World.transport_note _ rfl
    | hang => rfl
    | deed d => exact (ih _).trans (World.transport_doDeed _ d)
    | gate g =>
      unfold pollSource
      split
      · exact ih _
      · exact World.transport_waitAtGate _ g
    | wait k =>
      cases k with
      | zero => exact ih _
      | succ k => rfl

theorem transport_pollOutput (n : OutputId) (w : World) :
    (pollOutput n w).2.transport = w.transport := by
  unfold pollOutput
  split
  · split
    · exact World.transport_takeItem w n _ _
    · rfl
    · rfl
  · rfl

theorem transport_pollFeed (f : Feed) (w : World) :
    (pollFeed f w).2.transport = w.transport := by
  induction f with
  | source n => exact transport_pollSource n _ w
  | output n => exact transport_pollOutput n w
  | through f ih => exact ih

theorem transport_of_poll {answer : Poll (Option Item)} (h : pollBody b w = (answer, w')) :
    w'.transport = w.transport := by
  have hpoll : (pollBody b w).2.transport = w.transport := by
    cases b with
    | wrapped n => exact transport_pollOutput n w
    | unwrapped f => exact transport_pollFeed f w
  rwa [h] at hpoll

/-- a consumer that draws from a body leaves the transport alone -/
theorem Draws.transport {items : List Item} (h : Draws b w items w') :
    w'.transport = w.transport := by
  induction h with
  | finish h | failure h => exact transport_of_poll h
  | chunk h rest ih | later h rest ih => exact ih.trans (transport_of_poll h)

/-! ## scripted sources -/

/-- a script that comes to a source, after any waits -/
inductive Script : List SourceAction → Source → Prop where
  | silence : Script [] ⟨[], .clean⟩
  | finish (rest : List SourceAction) : Script (.finish :: rest) ⟨[], .clean⟩
  | fail (g : Failure) (rest : List SourceAction) : Script (.fail g :: rest) ⟨[], .failure g⟩
  | chunk {as : List SourceAction} {cs : List Bytes} {e : Ending} (c : Bytes)
      (rest : Script as ⟨cs, e⟩) : Script (.chunk c :: as) ⟨c :: cs, e⟩
  | wait {as : List SourceAction} {src : Source} (k : Nat) (rest : Script as src) :
      Script (.wait k :: as) src

def World.HasSource (w : World) (n : SourceId) : Prop := n - 1 < w.sources.length

theorem sourceRest_setSource {n : SourceId} (h : w.HasSource n) (as : List SourceAction) :
    (w.setSource n as).sourceRest n = as := by
  unfold World.sourceRest World.setSource
  rw [List.getD_eq_getElem?_getD, List.getElem?_set_self h]
  rfl

theorem hasSource_setSource {n : SourceId} (h : w.HasSource n) (as : List SourceAction) :
    (w.setSource n as).HasSource n := by
  unfold World.HasSource World.setSource
  rwa [List.length_set]

theorem Gives.of_poll_eq (h : pollFeed f w = pollFeed f w₁) (hg : Gives f w₁ src w') :
    Gives f w src w' := by
  cases hg with
  | finish h₁ => exact .finish (h.trans h₁)
  | failure h₁ => exact .failure (h.trans h₁)
  | chunk h₁ rest => exact .chunk (h.trans h₁) rest
  | later h₁ rest => exact .later (h.trans h₁) rest

/-- a scripted source is given as it is written -/
theorem gives_of_script {n : SourceId} {as : List SourceAction} (h : Script as src)
    (hn : w.HasSource n) (has : w.sourceRest n = as) : ∃ w', Gives (.source n) w src w' := by
  have hpoll : ∀ {w : World} {as : List SourceAction}, w.sourceRest n = as →
      pollFeed (.source n) w = pollSource n as w := by
    rintro w as rfl
    rfl
  induction h generalizing w with
  | silence => exact ⟨_, .finish (hpoll has)⟩
  | finish rest => exact ⟨_, .finish (hpoll has)⟩
  | fail g rest => exact ⟨_, .failure (hpoll has)⟩
  | @chunk as cs e c rest ih =>
    let w₁ := (w.setSource n as).note (.read n (.chunk c.length))
    obtain ⟨w', hw'⟩ := ih (w := w₁) (hasSource_setSource hn as) (sourceRest_setSource hn as)
    exact ⟨w', .chunk (hpoll has) hw'⟩
  | @wait as src k rest ih =>
    induction k generalizing w with
    | zero =>
      obtain ⟨w', hw'⟩ := ih (hasSource_setSource hn as) (sourceRest_setSource hn as)
      refine ⟨w', hw'.of_poll_eq ?_⟩
      exact (hpoll has).trans (hpoll (sourceRest_setSource hn as)).symm
    | succ k ihk =>
      let w₁ := (w.setSource n (.wait k :: as)).rest
      obtain ⟨w', hw'⟩ := ihk (w := w₁) (hasSource_setSource hn _) (sourceRest_setSource hn _)
      exact ⟨w', .later (hpoll has) hw'⟩

end Scenario

/-! ## what a driver makes of the same body -/

open Session Driver

theorem parseLength_le {v : List Char} {n : Nat} (h : Http.parseLength v = some n) :
    n ≤ countCap := by
  unfold Http.parseLength at h
  dsimp only at h
  split_ifs at h with _ _ hle
  cases h
  exact hle

/-- no promise is above the cap of the counts -/
theorem expectedLength_le {σ : Type} {resp : Response σ} {m : Http.Method} {n : Nat}
    (h : resp.expectedLength m = some n) : n ≤ countCap := by
  unfold Response.expectedLength Http.expectedLength Http.declaredLength at h
  split_ifs at h
  obtain ⟨text, -, htext⟩ := Option.bind_eq_some_iff.mp h
  exact parseLength_le htext

section
variable {a : Assignment Source} {w : Surroundings} {length ceiling : Nat}

theorem lt_byteCount {n : Nat} {cs : List Bytes} (h : n < cs.flatten.length) (hn : n < countCap) :
    n < byteCount cs := by
  unfold byteCount
  omega

/-- a body that outlasts a promise above the ceiling outgrows the ceiling -/
theorem Source.Outlasts.outgrows {p : Policy} {src : Source} (hsrc : src.Outlasts length ceiling)
    (hp : p.ceiling = some ceiling) (hlt : ceiling < length) (hcap : length ≤ countCap) :
    p.outgrows src.chunks = true := by
  have hlen : ceiling < src.chunks.flatten.length := by
    unfold Source.Outlasts at hsrc
    cases he : src.ending with
    | clean =>
      rw [he] at hsrc
      exact Nat.lt_of_lt_of_le hlt hsrc
    | failure g =>
      rw [he] at hsrc
      exact hsrc
    | breakdown words =>
      rw [he] at hsrc
      exact hsrc.elim
  have hcount : ceiling < byteCount src.chunks :=
    lt_byteCount hlen (Nat.lt_of_lt_of_le hlt hcap)
  unfold Policy.outgrows
  rw [hp]
  exact decide_eq_true hcount

/-- an attempt on such a body ends as the body does -/
theorem Source.Outlasts.close {src : Source} (hsrc : src.Outlasts length ceiling)
    (hcap : length ≤ countCap) :
    (Attempt.close ⟨src, some length⟩).overflowError = src.ending.raised .overflow := by
  unfold Source.Outlasts at hsrc
  unfold Attempt.close
  cases he : src.ending with
  | clean =>
    rw [he] at hsrc
    have hkept : ¬ byteCount src.chunks < length := by
      unfold byteCount
      have hlen : length ≤ src.chunks.flatten.length := hsrc
      omega
    simp only [hkept, if_false]
    rfl
  | failure g => rfl
  | breakdown words =>
    rw [he] at hsrc
    exact hsrc.elim

/-- above its ceiling a first attempt is handed out whole, once the log has taken the overflow,
and the transport is not called again -/
theorem ends_of_outgrown (hout : a.policy.outgrows a.source.chunks = true)
    (hlog : w.logs.head = .ok none) :
    ∃ s, (∀ u, Ends (.start a w) u ↔ u = s) ∧ s.dispatches = 1 ∧
      s.sent = (worthSending a.source.chunks).map .ok ++
        (Attempt.close ⟨a.source, a.promised⟩).overflowError.toList.map .error := by
  have hsome := isSome_overflow? a.policy a.source.chunks
  rw [hout] at hsome
  obtain ⟨pre, hpre⟩ := Option.isSome_iff_exists.mp hsome
  have hpassage : passage a 1 ⟨a.source, a.promised⟩ w =
      ⟨.logged (a.overflowRecord 1 (byteCount pre)) (.ok none) :: sends a.source.chunks,
        .ended (Attempt.close ⟨a.source, a.promised⟩).overflowError 1⟩ := by
    unfold passage
    rw [hpre, hlog]
    rfl
  have hseen := (Seen.logged (a.overflowRecord 1 (byteCount pre)) (.ok none)).append
    (.sends a.source.chunks)
  exact ends_of_passage hpassage hseen

end

/-! ## the two side by side -/

open Scenario

section
variable {config : Config} {r : Request} {c : Context} {p : Policy} {resp : Response Feed}
  {f : Feed} {src : Source} {length ceiling : Nat} {w w' : World} {around : Surroundings}

/-- the two errors that a failure of the body raises carry the same cause -/
theorem raised_cause? (e : Ending) :
    (e.raised .stream).bind StageError.cause? = (e.raised .overflow).bind StageError.cause? := by
  cases e <;> rfl

/-- what promises more than the ceiling is passed through after one call -/
theorem execute_passed (hc : c.active = false) (hp : Gate.check r config = .ok p)
    (hbody : resp.body = some f) (hlength : resp.expectedLength r.method = some length)
    (hceiling : p.ceiling = some ceiling) (hlt : ceiling < length) :
    ∃ k, Stage.execute config Stage.dispatch r c = .call r c.wrapped k ∧
      k (.ok resp) = .done (.ok ⟨resp.ok, resp.status, resp.fields, some (.unwrapped f)⟩) := by
  refine ⟨_, execute_checked hc hp, ?_⟩
  have hlong : TooLong config r resp := by
    rw [tooLong_iff, hlength, ← eq_ofConfig_of_check hp, hceiling]
    exact decide_eq_true hlt
  have hnone : Stage.assignment? p r c.wrapped resp = none := by
    rw [eq_ofConfig_of_check hp]
    exact assignment?_of_not_guarded hc fun hg => hg.2.2.2 hlong
  have hdeliver : Stage.deliver p r c.wrapped resp = .done (.ok (.passed resp)) := by
    unfold Stage.deliver
    rw [hnone]
  rw [Stage.received, hdeliver, Delivery.passed, hbody]
  rfl

/-- Passing a body through is like overflowing.  Let a successful response promise more than the
ceiling, and let its body keep that promise or fail above the ceiling.  The stage makes one call
and passes the body through; the consumer draws all its chunks, and then its end or its failure.
A driver started on the same body hands out the same bytes and ends alike, with the same cause if
it fails.  Neither calls the transport again. -/
theorem passed_as_overflowed (hc : c.active = false) (hp : Gate.check r config = .ok p)
    (hok : resp.ok = true) (hbody : resp.body = some f)
    (hlength : resp.expectedLength r.method = some length) (hceiling : p.ceiling = some ceiling)
    (hlt : ceiling < length) (hsrc : src.Outlasts length ceiling) (hgives : Gives f w src w')
    (hlog : around.logs.head = .ok none) :
    (∃ k, Stage.execute config Stage.dispatch r c = .call r c.wrapped k ∧
      k (.ok resp) = .done (.ok ⟨true, resp.status, resp.fields, some (.unwrapped f)⟩)) ∧
    (∀ items u, Draws (.unwrapped f) w items u ↔
      items = src.chunks.map .ok ++ (src.ending.raised .stream).toList.map .error ∧ u = w') ∧
    w'.transport = w.transport ∧
    ∃ (s : Session) (cs : List Bytes),
      (∀ u, Ends (.start ⟨p, r, c.wrapped, src, some length⟩ around) u ↔ u = s) ∧
      s.sent = cs.map .ok ++ (src.ending.raised .overflow).toList.map .error ∧
      cs.flatten = src.chunks.flatten ∧ s.dispatches = 1 ∧
      (src.ending.raised .stream).bind StageError.cause?
        = (src.ending.raised .overflow).bind StageError.cause? := by
  have hcap : length ≤ countCap := expectedLength_le hlength
  have hdraws : Draws (.unwrapped f) w (passed src) w' := hgives.draws
  have hout : p.outgrows src.chunks = true := hsrc.outgrows hceiling hlt hcap
  refine ⟨?_, fun items u => ?_, hdraws.transport, ?_⟩
  · rw [← hok]
    exact execute_passed hc hp hbody hlength hceiling hlt
  · constructor
    · intro h
      exact hdraws.unique h
    · rintro ⟨rfl, rfl⟩
      exact hdraws
  · obtain ⟨s, hends, hcalls, hsent⟩ :=
      ends_of_outgrown (a := ⟨p, r, c.wrapped, src, some length⟩) hout hlog
    rw [hsrc.close hcap] at hsent
    exact ⟨s, worthSending src.chunks, hends, hsent, flatten_worthSending _, hcalls,
      raised_cause? _⟩

end

/-- twelve bytes are promised and ten may be held back; the body waits, gives an empty chunk and is
reset after all it promised -/
theorem passed_as_overflowed_reset :
    let config : Config := { budget := 2, ceiling := some 10 }
    let r : Request := ⟨.get, ⟨"http", none, .whole "", none, none⟩, [], .empty⟩
    let c : Context := .new {} 0
    let resp : Response Feed := ⟨true, .ok, [⟨"content-length", [49, 50]⟩], some (.source 1)⟩
    let reset : Failure := .foreign "reset"
    let src : Source := ⟨[[48, 49, 50, 51, 52], [], [53, 54, 55, 56, 57, 97, 98]], .failure reset⟩
    let w : World := {
      inner := [], log := .record, pauses := .record, limit := 0, script := []
      sources := [[.chunk [48, 49, 50, 51, 52], .wait 2, .chunk [],
        .chunk [53, 54, 55, 56, 57, 97, 98], .fail reset]] }
    let around : Surroundings := ⟨.const (.ok none), .const false, .const (.ok (.error reset))⟩
    resp.expectedLength r.method = some 12 ∧ src.Outlasts 12 10 ∧ ∃ w', Gives (.source 1) w src w' ∧
      (∀ items u, Draws (.unwrapped (.source 1)) w items u ↔ items = passed src ∧ u = w') ∧
      ∃ s, (∀ u, Ends (.start ⟨.ofConfig config, r, c.wrapped, src, some 12⟩ around) u ↔ u = s) ∧
        s.dispatches = 1 := by
  intro config r c resp reset src w around
  have hlasts : src.Outlasts 12 10 := by
    show 10 < 12
    decide
  have hscript : Script [.chunk [48, 49, 50, 51, 52], .wait 2, .chunk [],
      .chunk [53, 54, 55, 56, 57, 97, 98], .fail reset] src :=
    .chunk _ (.wait 2 (.chunk _ (.chunk _ (.fail reset []))))
  obtain ⟨w', hgives⟩ := gives_of_script (w := w) (n := 1) hscript Nat.one_pos rfl
  have hc : c.active = false := rfl
  have hp : Gate.check r config = .ok (.ofConfig config) := rfl
  have hlength : resp.expectedLength r.method = some 12 := rfl
  have hlog : around.logs.head = .ok none := rfl
  obtain ⟨-, hdraws, -, s, -, hends, -, -, hcalls, -⟩ :=
    passed_as_overflowed hc hp rfl rfl hlength rfl (by decide : 10 < 12) hlasts hgives hlog
  exact ⟨hlength, hlasts, w', hgives, hdraws, s, hends, hcalls⟩

end Refetch

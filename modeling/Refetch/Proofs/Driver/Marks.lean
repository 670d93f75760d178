import Refetch.Proofs.Driver.Duet
import Refetch.Proofs.Driver.Release
/-!
# What is seen of a driver and its consumer

What a list of marks says, and what is seen of one turn:

* `Tally`        what a list of marks says of the bodies, the breakdowns and the items sent;
* `telling`      what is seen when the driver is told something;
* `Answer.Fits`  an answer that comes where a driver waits for it;
* `Tells.fits`, `Tells.gone`, …   what is told in a turn;
* `Settled`      what holds of every driver under every schedule;
* `ask_of_polled`   what a driver polls is what it asks for.
-/

namespace Refetch

open Driver Duet

/-! ## what the marks say -/

/-- what a list of marks says -/
structure Tally where
  /-- the last response that came, the first one included -/
  response : Response Source
  spent : Bool := false
  /-- the bodies that came, that of the first response included -/
  arrived : Nat := 1
  released : Nat := 0
  broke : Bool := false
  sent : Option Item := none

namespace Tally

def add (y : Tally) : Mark → Tally
  | .told .ended => { y with spent := true }
  | .told (.failed _) => { y with spent := true }
  | .told (.responded (.ok r)) =>
    { y with response := r, spent := false, arrived := y.arrived + r.body.toList.length }
  | .told (.brokeDown _) => { y with broke := true }
  | .letGo _ => { y with released := y.released + 1 }
  | .sent i => { y with sent := some i }
  | _ => y

def after (y : Tally) (ms : List Mark) : Tally := ms.foldl add y

theorem after_append (y : Tally) (xs ys : List Mark) :
    y.after (xs ++ ys) = (y.after xs).after ys := List.foldl_append

end Tally

/-- what the marks say of a driver that was started with this response -/
def tally (first : Response Source) (tr : List Mark) : Tally := Tally.after { response := first } tr

theorem tally_append (first : Response Source) (xs ys : List Mark) :
    tally first (xs ++ ys) = (tally first xs).after ys := Tally.after_append _ xs ys

/-- what is seen when the driver is told `a`, with the item sent before and what is let go -/
def telling (item : Option Item) (a : Answer Source) (gone : Option Source) : List Mark :=
  item.toList.map .sent ++ .told a :: gone.toList.map .letGo

theorem Tally.after_telling (y : Tally) (item : Option Item) (a : Answer Source)
    (gone : Option Source) :
    y.after (telling item a gone) =
      { y.add (.told a) with
        released := y.released + gone.toList.length
        sent := item <|> y.sent } := by
  rcases a with _ | c | _ | f | r | _ | _ | _ | o | words
  case responded => cases o <;> cases item <;> cases gone <;> rfl
  all_goals cases item <;> cases gone <;> rfl

/-- an answer that brings no response leaves the bodies as they are -/
theorem Tally.add_told (y : Tally) {a : Answer Source} (h : ∀ r, a ≠ .responded (.ok r)) :
    (y.add (.told a)).response = y.response ∧ (y.add (.told a)).arrived = y.arrived := by
  cases a with
  | responded o =>
    cases o with
    | error f => exact ⟨rfl, rfl⟩
    | ok r => exact absurd rfl (h r)
  | _ => exact ⟨rfl, rfl⟩

theorem Tally.broke_add_told (y : Tally) (a : Answer Source) :
    (y.add (.told a)).broke = (y.broke || a.isBreakdown) := by
  cases a with
  | responded o => cases o <;> exact (Bool.or_false _).symm
  | brokeDown words => exact (Bool.or_true _).symm
  | _ => exact (Bool.or_false _).symm

/-! ## what is told in a turn -/

/-- the answer comes where a driver waits for it, and word of a close after the close -/
def Answer.Fits (closed : Bool) (p : Point) : Answer Source → Prop
  | .closed => closed = true
  | .refused => closed = true
  | .ended => p = .reading
  | .failed _ => p = .reading
  | .responded _ => p = .dispatching
  | _ => True

section
variable {d : Duet} {t : Turn} {seen : List Mark} {dr : Driver Source} {w : Surroundings}
  {o : Output} {a : Answer Source} (h : Tells d t seen dr w o a)
include h

theorem Tells.fits : a.Fits d.output.closed dr.point := by
  cases h with
  | word h => exact ask_word h
  | logged r h => cases d.around.logs.head <;> trivial
  | sent i h ho room => trivial
  | refused i h hc => exact hc
  | chunk c cs e hw h => trivial
  | ending e hw h =>
    cases e with
    | clean => exact (ask_item h).1
    | failure f => exact (ask_item h).1
    | breakdown words => trivial
  | elapsed p hw h => trivial
  | responded r c hw h =>
    cases d.around.replies.head with
    | error words => trivial
    | ok r => exact (ask_response h).1

/-- to be told that the consumer is gone, it has to be gone -/
theorem Tells.gone (ha : IsGone d.now a) : d.output.closed = true := by
  have hfits := h.fits
  rcases ha with ha | rfl | rfl
  · exact ha
  · exact hfits
  · exact hfits

theorem Tells.seen_eq : ∃ item : Option Item, seen = item.toList.map .sent := by
  cases h with
  | sent i h ho room => exact ⟨some i, rfl⟩
  | _ => exact ⟨none, rfl⟩

theorem Tells.going : d.driver.point ≠ .stopped := by
  intro hp
  have hask (closed : Bool) : d.driver.ask closed = .nothing := by rw [ask, hp]
  cases h with
  | word h => rw [hask] at h; cases h
  | logged r h => rw [hask] at h; cases h
  | sent i h ho room => rw [hask] at h; cases h
  | refused i h hc => rw [hask] at h; cases h
  | chunk c cs e hw h => rw [hask] at h; cases h
  | ending e hw h => rw [hask] at h; cases h
  | elapsed p hw h => rw [hask] at h; cases h
  | responded r c hw h => rw [hask] at h; cases h

/-- a driver that reads a chunk has the rest of its source left; otherwise it is told as it is -/
theorem Tells.poised {broke : Bool} (hd : d.driver.Poised broke) : dr.Poised broke := by
  cases h with
  | chunk c cs e hw hask => exact hd.withSource (ask_item hask).1 ⟨cs, e⟩
  | _ => exact hd

theorem Tells.point_eq : dr.point = d.driver.point := by
  cases h <;> rfl

theorem Tells.ends_eq : o.closed = d.output.closed ∧ o.ended = d.output.ended := by
  cases h <;> exact ⟨rfl, rfl⟩

/-- what a driver that ends with an error has sent is the error -/
theorem Tells.seen_of_failing {e : StageError} (hp : dr.point = .failing e) (ha : a = .sent) :
    seen = [.sent (.error e)] := by
  cases h with
  | sent i h ho room =>
    rcases ask_room h with ⟨c, rest, last, hp', rfl⟩ | ⟨e', hp', rfl⟩
    · rw [hp] at hp'
      cases hp'
    · rw [hp] at hp'
      rw [Point.failing.inj hp']
  | logged r h => cases hl : d.around.logs.head <;> rw [hl] at ha <;> cases ha
  | ending e hw h => cases e <;> cases ha
  | responded r c hw h => cases hl : d.around.replies.head <;> rw [hl] at ha <;> cases ha
  | _ => cases ha

end

theorem next_ends_eq (o : Output) : o.next.2.closed = o.closed ∧ o.next.2.ended = o.ended := by
  unfold Output.next
  split
  · exact ⟨rfl, rfl⟩
  · split <;> exact ⟨rfl, rfl⟩

/-- what holds of every driver under every schedule -/
structure Settled (d : Duet) : Prop where
  poised : ∃ broke, d.driver.Poised broke
  ended : d.output.ended = true → d.driver.point = .stopped

theorem settled_start (a : Assignment Source) (w : Surroundings) : Settled (.start a w) where
  poised := ⟨false, rfl, rfl, rfl⟩
  ended h := by cases h

theorem Settled.turned {d d' : Duet} {t : Turn} {seen : List Mark} (h : Settled d)
    (ht : Turned d t seen d') : Settled d' := by
  obtain ⟨broke, hd⟩ := h.poised
  cases ht with
  | tells ht =>
    refine ⟨⟨_, poised_react (ht.poised hd) d.now _⟩, fun he => ?_⟩
    exact absurd (h.ended (ht.ends_eq.2 ▸ he)) ht.going
  | polled a hask hp => exact ⟨h.poised, h.ended⟩
  | ended hask => exact ⟨h.poised, fun _ => ask_nothing hd hask⟩
  | full i hask ho hfull => exact h
  | idle hidle => exact h
  | took => exact ⟨h.poised, fun he => h.ended ((next_ends_eq d.output).2 ▸ he)⟩
  | closed => exact ⟨h.poised, h.ended⟩

theorem settled_after (a : Assignment Source) (w : Surroundings) (ts : List Turn) :
    Settled ((Duet.start a w).after ts) :=
  schedule_induction (P := fun _ d => Settled d) (settled_start a w)
    (fun _ _ _ _ _ h ht => h.turned ht) ts

/-- what a driver polls in a turn is what it asks for -/
theorem ask_of_polled {d : Duet} {t : Turn} {a : Ask Source} (h : .polled a ∈ (d.turn t).1) :
    d.driver.ask d.output.closed = a := by
  have ht := turned_turn d t
  generalize (d.turn t).1 = seen at h ht
  generalize (d.turn t).2 = d' at ht
  cases ht with
  | tells ht =>
    obtain ⟨item, rfl⟩ := ht.seen_eq
    simp [Duet.tell] at h
  | polled a' hask hp =>
    obtain ⟨rfl⟩ : a = a' := by simpa using h
    exact hask
  | took => simp at h
  | closed => simp at h
  | _ => cases h

end Refetch

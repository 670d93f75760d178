import Refetch.Text.Record
import Refetch.Text.Numeral
/-!
# Configuration

* `Config`            the four settings of a stage, with their defaults;
* `Config.with…`      one setting replaced, the others kept;
* `Config.isEnabled`  the stage retries at all;
* `Delay`             the pause between two attempts.
-/

namespace Refetch

/-- the settings of a stage -/
structure Config where
  /-- attempts after the first; none switches the stage off -/
  budget : UInt32 := 0
  delayMs : UInt64 := 0
  /-- retry also what is not safe to repeat -/
  allowUnsafe : Bool := false
  /-- the bytes of one attempt that may be held back -/
  ceiling : Option UInt64 := none
  deriving DecidableEq, Repr, Inhabited

namespace Config

def withBudget (c : Config) (n : UInt32) : Config := { c with budget := n }
def withDelayMs (c : Config) (n : UInt64) : Config := { c with delayMs := n }
def withAllowUnsafe (c : Config) (b : Bool) : Config := { c with allowUnsafe := b }
def withCeiling (c : Config) (n : UInt64) : Config := { c with ceiling := some n }

def isEnabled (c : Config) : Bool := 0 < c.budget

end Config

/-- one setting, as the setters take it -/
inductive Setting where
  | budget (n : UInt32)
  | delayMs (n : UInt64)
  | allowUnsafe (b : Bool)
  | ceiling (n : UInt64)
  deriving DecidableEq, Repr

def Config.set (c : Config) : Setting → Config
  | .budget n => c.withBudget n
  | .delayMs n => c.withDelayMs n
  | .allowUnsafe b => c.withAllowUnsafe b
  | .ceiling n => c.withCeiling n

def Config.setAll (c : Config) (ss : List Setting) : Config := ss.foldl Config.set c

theorem Config.setAll_cons (c : Config) (s : Setting) (ss : List Setting) :
    c.setAll (s :: ss) = (c.set s).setAll ss := rfl

structure Delay where
  ms : UInt64
  deriving DecidableEq, Repr

namespace Delay

def isZero (d : Delay) : Bool := d.ms == 0

theorem isZero_iff (d : Delay) : d.isZero = true ↔ d.ms = 0 := beq_iff_eq

def seconds (d : Delay) : Nat := d.ms.toNat / 1000

/-- the nanoseconds beyond the whole seconds -/
def nanoseconds (d : Delay) : Nat := d.ms.toNat % 1000 * 1000000

end Delay

/-- the pause that a configuration asks for -/
def Config.delay (c : Config) : Delay := ⟨c.delayMs⟩

def Config.inspect (c : Config) : String :=
  Text.record "BodyRetryConfig" [
    ("retry_budget", Text.natText c.budget.toNat),
    ("retry_delay_ms", Text.natText c.delayMs.toNat),
    ("allow_unsafe_retry", Text.boolText c.allowUnsafe),
    ("max_buffered_bytes_per_attempt",
      Text.optionText (c.ceiling.map fun n => Text.natText n.toNat))]

def Config.inspectStage (c : Config) : String := Text.record "BodyRetry" [("config", c.inspect)]

end Refetch

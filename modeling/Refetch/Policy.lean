import Refetch.Config
import Refetch.Message
/-!
# The policy of a request

* `Policy`            what a configuration means for one request;
* `Policy.ofConfig`   the policy of a configuration, without any check;
* `Gate.check`        the policy of a request, or why it may not be retried.

The gate makes three checks in a fixed order and reports the first that fails: the budget is
positive, the method is idempotent, the payload is replayable.  The switch for unsafe requests
turns the last two off.
-/

namespace Refetch

def attemptCap : Nat := 4294967295

/-- what a configuration means for one request -/
structure Policy where
  /-- attempts allowed, the first one included -/
  maxAttempts : Nat
  delay : Delay := ⟨0⟩
  /-- the bytes of one attempt that may be held back -/
  ceiling : Option Nat := none
  allowUnsafe : Bool := false
  deriving DecidableEq, Repr

def Policy.ofConfig (c : Config) : Policy where
  maxAttempts := min attemptCap (c.budget.toNat + 1)
  delay := c.delay
  ceiling := c.ceiling.map UInt64.toNat
  allowUnsafe := c.allowUnsafe

/-- the policy of a request, or why it may not be retried -/
def Gate.check (r : Request) (c : Config) : Except Rejection Policy :=
  if c.budget == 0 then .error .budgetNotPositive
  else if !r.method.idempotent && !c.allowUnsafe then .error .methodNotIdempotent
  else if !r.payload.isReplayable && !c.allowUnsafe then .error .payloadNotReplayable
  else .ok (Policy.ofConfig c)

end Refetch

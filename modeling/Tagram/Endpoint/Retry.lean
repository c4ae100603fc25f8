/-
# Reopening after a failure

A retry policy says how long an endpoint waits before it opens its socket
again, and when it gives up. The wait doubles with every failure in a row up
to the longest wait. Doubling is counted in 32 bits, and the product must be a
duration; beyond either bound the wait is the longest one.

Key definitions: `RetryPolicy`, `RetryPolicy.backoff`, `RetryPolicy.exhausted`.
-/
import Tagram.Duration

namespace Tagram

/-- How an endpoint reopens its socket after failures. -/
structure RetryPolicy where
  /-- The wait after the first failure. -/
  initialBackoff : Duration := ⟨50000000, by decide⟩
  /-- The longest wait. -/
  maxBackoff : Duration := ⟨5000000000, by decide⟩
  /-- The failures in a row after which the next one is the last. -/
  maxRetries : Option UInt32 := none
  deriving DecidableEq

namespace RetryPolicy

/-- The policy that is used when none is asked for. -/
def default : RetryPolicy := {}

/-- The wait before retry number `attempt`, counted from zero. -/
def backoff (p : RetryPolicy) (attempt : Nat) : Duration :=
  let doubled := if attempt < 32 then p.initialBackoff.scale? (Nat.pow 2 attempt) else none
  (doubled.getD p.maxBackoff).shorter p.maxBackoff

/-- Whether so many failures in a row are too many. -/
def exhausted (p : RetryPolicy) (failures : Nat) : Bool :=
  match p.maxRetries with
  | some n => n.toNat < failures
  | none => false

end RetryPolicy
end Tagram

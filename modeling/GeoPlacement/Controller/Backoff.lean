import GeoPlacement.Controller.Cache
import GeoPlacement.Controller.Settings

/-!
# Backoff

How long to wait before a failed pass is tried again. The delay doubles with each failure of the
same resource in a row, up to a maximum; after a limited number of failures the resource is given
up and its count starts over. A count is kept until then. Times are in milliseconds.
-/

namespace GeoPlacement

/-- The failures of each resource and what is made of them. -/
structure Backoff where
  attempts : Table ObjectRef Nat := .empty
  retryLimit : Nat
  base : Nat
  max : Nat
deriving Inhabited

namespace Backoff

/-- The longest time in seconds for which a count may be kept without use: a thousand years. -/
def maxIdleSeconds : Nat := 1000 * 365 * 24 * 3600

/-- Sets up the counts. An idle count has to be kept for twice the maximal delay, so there is no
backoff where that is longer than a count may be kept. -/
def ofSettings? (s : BackoffSettings) : Option Backoff :=
  if 2 * s.maxSeconds ≤ maxIdleSeconds then
    some { retryLimit := s.retryLimit, base := s.baseMillis, max := s.maxSeconds * 1000 }
  else
    none

/-- The factor of the delay after so many failures, which stays within 32 bits. -/
def factor (attempt : Nat) : Nat :=
  if attempt < 32 then 1 <<< attempt else UInt32.size - 1

/-- The delay after so many failures. -/
def delay (b : Backoff) (attempt : Nat) : Nat :=
  min (b.base * factor attempt) b.max

/-- The number of failures in a row of a resource. -/
def failures (b : Backoff) (key : ObjectRef) : Nat :=
  (b.attempts.get? key).getD 0

/-- Forgets the failures of a resource. -/
def reset (b : Backoff) (key : ObjectRef) : Backoff :=
  { b with attempts := b.attempts.erase key }

/-- Counts a failure: the delay before the next try, `none` once the limit is spent. -/
def next (b : Backoff) (key : ObjectRef) : Option Nat × Backoff :=
  let attempt := b.failures key
  if b.retryLimit ≤ attempt then
    (none, b.reset key)
  else
    (some (b.delay attempt), { b with attempts := b.attempts.insert key (attempt + 1) })

/-- No delay exceeds the maximum. -/
theorem delay_le_max (b : Backoff) (attempt : Nat) : b.delay attempt ≤ b.max :=
  Nat.min_le_right _ _

/-- A reset forgets the failures of its resource and of no other. -/
@[simp] theorem failures_reset (b : Backoff) (key query : ObjectRef) :
    (b.reset key).failures query = if key = query then 0 else b.failures query := by
  unfold failures reset
  rw [Table.get?_erase]
  split <;> rfl

end Backoff

end GeoPlacement

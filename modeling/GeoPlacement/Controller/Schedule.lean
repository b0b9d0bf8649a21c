import GeoPlacement.Controller.Cache

/-!
# The schedule of passes

A request asks for a pass over a resource at some time. Requests for one resource are merged: at
any time a resource has at most one pass to come, which is either **scheduled** for a time or
**due**. A pass is scheduled a debounce later than it was asked for, so that a burst of events
leads to one pass.

## Rules

- A request replaces a scheduled pass unless the scheduled one comes before the requested time.
- No pass is scheduled further ahead than `Schedule.maxAhead`.
- A due pass absorbs every request.
- A scheduled pass becomes due at its time, and is taken from the schedule when it starts.

Times are in milliseconds.
-/

namespace GeoPlacement

/-- The passes to come. -/
structure Schedule where
  debounce : Nat
  scheduled : Table ObjectRef Nat := .empty
  /-- The resources whose time has come, in the order in which it came. -/
  due : List ObjectRef := []
deriving Inhabited

namespace Schedule

/-- How far ahead a pass may be scheduled: 180 days. -/
def maxAhead : Nat := 180 * 24 * 3600 * 1000

/-- The time for which a request is scheduled that is made now. -/
def scheduledTime (s : Schedule) (now time : Nat) : Nat :=
  min (time + s.debounce) (now + maxAhead)

/-- Asks now for a pass over a resource at a time. -/
def request (s : Schedule) (now time : Nat) (reference : ObjectRef) : Schedule :=
  let replaced :=
    { s with scheduled := s.scheduled.insert reference (s.scheduledTime now time) }
  if reference ∈ s.due then s
  else
    match s.scheduled.get? reference with
    | some old => if time ≤ old then replaced else s
    | none => replaced

/-- Asks for passes over several resources at once. -/
def requestAll (s : Schedule) (now : Nat) (references : List ObjectRef) : Schedule :=
  references.foldl (·.request now now) s

/-- The time at which the next scheduled pass becomes due. -/
def nextTime? (s : Schedule) : Option Nat :=
  s.scheduled.values.min?

/-- The resources whose passes are scheduled for a time that has come, by time. -/
def expired (s : Schedule) (now : Nat) : List ObjectRef :=
  ((s.scheduled.entries.filter (·.2 ≤ now)).mergeSort fun a b => a.2 ≤ b.2).map Prod.fst

/-- Lets the passes whose time has come become due. -/
def promote (s : Schedule) (now : Nat) : Schedule :=
  let expired := s.expired now
  { s with
    scheduled := expired.foldl (·.erase ·) s.scheduled
    due := s.due ++ expired }

/-- Takes a due pass from the schedule. -/
def take (s : Schedule) (reference : ObjectRef) : Schedule :=
  { s with due := s.due.erase reference }

end Schedule

end GeoPlacement

import Tabletop.Time.Date

/-!
# Instants

A point in time, kept in coordinated universal time to the nanosecond.  A minute may end in a leap
second, which is the second half of its last second: its nanoseconds run on from a billion.
-/

namespace Tabletop.Time

/-- Whether a second of the day and a count of nanoseconds name a time of day.  Nanoseconds beyond a
billion belong to a leap second, which only the last second of a minute can have. -/
def IsTimeOfDay (second nano : Nat) : Prop :=
  second < 86400 ∧ nano < 2000000000 ∧ (1000000000 ≤ nano → second % 60 = 59)

instance (second nano : Nat) : Decidable (IsTimeOfDay second nano) := by
  unfold IsTimeOfDay
  infer_instance

/-- A point in time, in coordinated universal time. -/
structure Instant where
  /-- The day. -/
  date : Date
  /-- The second of the day. -/
  second : Nat
  /-- The nanoseconds since that second began. -/
  nano : Nat
  /-- The day has this time. -/
  isTimeOfDay : IsTimeOfDay second nano
deriving DecidableEq, Repr

namespace Instant

/-- The instant at a date and time of day, if there is one. -/
def ofParts? (date : Date) (second nano : Nat) : Option Instant :=
  if h : IsTimeOfDay second nano then some ⟨date, second, nano, h⟩ else none

/-- The instant at a local date and time, `offset` seconds ahead of universal time.  The offset is
less than a day, so the universal date is the local one or a neighbour of it. -/
def ofLocal? (date : Date) (second nano : Nat) (offset : Int) : Option Instant :=
  let universal : Int := second - offset
  if universal < 0 then
    date.previous?.bind fun d => ofParts? d (universal + 86400).toNat nano
  else if universal < 86400 then ofParts? date universal.toNat nano
  else date.next?.bind fun d => ofParts? d (universal - 86400).toNat nano

end Instant

end Tabletop.Time

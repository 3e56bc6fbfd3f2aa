/-
Timestamps.  A timestamp is a wall clock reading, or a reading of the clock in
UTC together with an offset.  The wall clock of the latter is the UTC reading
moved by the offset.
-/
import Stencil.Time.Date

namespace Stencil

/-- The nanoseconds of a second. -/
def secondNanos : Nat := 1000000000

/-- A time of day.  In a leap second the nanoseconds are counted on from the
second before it, so they reach beyond those of one second. -/
structure Clock where
  hour : Nat
  minute : Nat
  second : Nat
  nanos : Nat
deriving DecidableEq, Repr, Inhabited

namespace Clock

def midnight : Clock := ⟨0, 0, 0, 0⟩

/-- Whether the reading can occur. -/
def isValid (c : Clock) : Bool :=
  c.hour < 24 && c.minute < 60 && c.second < 60 && c.nanos < 2 * secondNanos

/-- Seconds since midnight. -/
def seconds (c : Clock) : Nat :=
  c.hour * 3600 + c.minute * 60 + c.second

/-- The reading a number of seconds after midnight. -/
def ofSeconds (seconds nanos : Nat) : Clock :=
  ⟨seconds / 3600, seconds / 60 % 60, seconds % 60, nanos⟩

/-- The second that is shown, 60 in a leap second. -/
def shownSecond (c : Clock) : Nat :=
  c.second + c.nanos / secondNanos

/-- The fraction that is shown, in nanoseconds. -/
def shownNanos (c : Clock) : Nat :=
  c.nanos % secondNanos

theorem seconds_ofSeconds (s n : Nat) : (ofSeconds s n).seconds = s := by
  simp only [ofSeconds, seconds]
  omega

theorem ofSeconds_seconds {c : Clock} (h : c.isValid = true) :
    ofSeconds c.seconds c.nanos = c := by
  obtain ⟨hour, minute, second, nanos⟩ := c
  simp only [isValid, Bool.and_eq_true, decide_eq_true_eq] at h
  simp only [ofSeconds, seconds, Clock.mk.injEq, and_true]
  refine ⟨?_, ?_, ?_⟩ <;> omega

end Clock

/-- A reading of calendar and clock. -/
structure DateTime where
  date : Date
  clock : Clock
deriving DecidableEq, Repr, Inhabited

namespace DateTime

/-- The seconds in a day. -/
def daySeconds : Nat := 86400

/-- The reading moved by less than a day. -/
def shift (t : DateTime) (seconds : Int) : DateTime :=
  let total := (t.clock.seconds : Int) + seconds
  if total < 0 then
    ⟨t.date.previous, .ofSeconds (total + daySeconds).toNat t.clock.nanos⟩
  else if daySeconds ≤ total then
    ⟨t.date.next, .ofSeconds (total - daySeconds).toNat t.clock.nanos⟩
  else ⟨t.date, .ofSeconds total.toNat t.clock.nanos⟩

/-- Seconds since the start of 1970, leap seconds not counted. -/
def epochSeconds (t : DateTime) : Int :=
  t.date.dayNumber * daySeconds + t.clock.seconds

end DateTime

/-- A timestamp. -/
inductive Moment where
  | naive (clock : DateTime)
  | zoned (utc : DateTime) (offset : Int)
deriving DecidableEq, Repr, Inhabited

namespace Moment

/-- The moment at which a wall clock ahead of UTC by `offset` seconds shows a
reading, if its UTC date is one of the calendar. -/
def ofWallClock? (wall : DateTime) (offset : Int) : Option Moment :=
  let utc := wall.shift (-offset)
  if utc.date.isValid then some (zoned utc offset) else none

/-- The reading of the wall clock. -/
def wallClock : Moment → DateTime
  | naive clock => clock
  | zoned utc offset => utc.shift offset

/-- The offset from UTC in seconds, if there is one. -/
def offset? : Moment → Option Int
  | naive _ => none
  | zoned _ offset => some offset

/-- Seconds since the start of 1970; without an offset the wall clock counts
as UTC. -/
def epochSeconds : Moment → Int
  | naive clock => clock.epochSeconds
  | zoned utc _ => utc.epochSeconds

end Moment

end Stencil

/-
The written form of timestamps.  Years outside 0 to 9999 carry a sign, and a
fraction is written with three, six or nine digits or not at all.
-/
import Stencil.Time.Moment

namespace Stencil

/-- The decimal digits of a number. -/
def decimalDigits (n : Nat) : List Char :=
  Nat.toDigits 10 n

/-- Characters filled up on the left to a width. -/
def padLeft (fill : Char) (width : Nat) (cs : List Char) : List Char :=
  List.replicate (width - cs.length) fill ++ cs

/-- The decimal digits of a number with zeros in front up to a width. -/
def zeroPadded (width n : Nat) : List Char :=
  padLeft '0' width (decimalDigits n)

/-- The text of a year. -/
def yearText (year : Int) : List Char :=
  if 0 ≤ year ∧ year ≤ 9999 then zeroPadded 4 year.toNat
  else (if year < 0 then '-' else '+') :: zeroPadded 4 year.natAbs

namespace Date

def chars (d : Date) : List Char :=
  yearText d.year ++ '-' :: zeroPadded 2 d.month ++ '-' :: zeroPadded 2 d.day

end Date

namespace Clock

/-- The fraction with its point, in the fewest groups of three digits. -/
def fractionChars (c : Clock) : List Char :=
  let n := c.shownNanos
  if n = 0 then []
  else if n % 1000000 = 0 then '.' :: zeroPadded 3 (n / 1000000)
  else if n % 1000 = 0 then '.' :: zeroPadded 6 (n / 1000)
  else '.' :: zeroPadded 9 n

/-- Hours, minutes and seconds. -/
def plainChars (c : Clock) : List Char :=
  zeroPadded 2 c.hour ++ ':' :: zeroPadded 2 c.minute ++
    ':' :: zeroPadded 2 c.shownSecond

def chars (c : Clock) : List Char :=
  c.plainChars ++ c.fractionChars

end Clock

/-- An offset as sign, hours and minutes with something between the two. -/
def offsetChars (separator : List Char) (offset : Int) : List Char :=
  let minutes := offset.natAbs / 60
  (if offset < 0 then '-' else '+') :: zeroPadded 2 (minutes / 60) ++
    separator ++ zeroPadded 2 (minutes % 60)

namespace Moment

/-- Date and time with a separator, and the offset if there is one. -/
def chars (separator : Char) (m : Moment) : List Char :=
  let wall := m.wallClock
  wall.date.chars ++ separator :: wall.clock.chars ++
    match m.offset? with
    | some offset => offsetChars [':'] offset
    | none => []

/-- The text that is shown, with a space between date and time. -/
def text (m : Moment) : String :=
  String.ofList (m.chars ' ')

/-- The text with a `T` between date and time. -/
def isoText (m : Moment) : String :=
  String.ofList (m.chars 'T')

example : (naive ⟨⟨-44, 3, 15⟩, ⟨12, 5, 59, 1500000000⟩⟩).text =
    "-0044-03-15 12:05:60.500" := by
  decide +kernel
example : (zoned ⟨⟨2024, 1, 1⟩, ⟨1, 0, 0, 0⟩⟩ (-5400)).isoText =
    "2023-12-31T23:30:00-01:30" := by
  decide +kernel

end Moment

end Stencil

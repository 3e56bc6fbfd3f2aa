/-
Patterns that write timestamps.  A percent sign begins a specifier; anything
else stands for itself.  A pattern with an unknown specifier writes nothing,
and so does one that asks a timestamp without an offset for its offset.
-/
import Stencil.Text.Split
import Stencil.Time.Text

namespace Stencil

/-- How a number is filled up to its width. -/
inductive Padding where
  | none
  | zeros
  | spaces
deriving DecidableEq, Repr

/-- The numbers that a pattern can write. -/
inductive Quantity where
  | year
  | century
  | yearOfCentury
  | isoYear
  | isoYearOfCentury
  | quarter
  | month
  | day
  | sundayWeek
  | mondayWeek
  | isoWeek
  | weekdayFromSunday
  | weekdayFromMonday
  | dayOfYear
  | hour
  | hour12
  | minute
  | second
  | nanosecond
  | epochSeconds
deriving DecidableEq, Repr

/-- One part of a pattern. -/
inductive PatternPart where
  | literal (c : Char)
  | number (quantity : Quantity) (padding : Padding)
  | monthName (short : Bool)
  | weekdayName (short : Bool)
  | halfDay (capitals : Bool)
  | shortestFraction
  | fraction (point : Bool) (digits : Nat)
  | offset (separator : List Char)
  | offsetSeconds
  | offsetHours
  | timestamp
deriving DecidableEq, Repr

abbrev Pattern := List PatternPart

namespace Pattern

open PatternPart

def monthNames : List String :=
  ["January", "February", "March", "April", "May", "June", "July", "August",
    "September", "October", "November", "December"]

def weekdayNames : List String :=
  ["Monday", "Tuesday", "Wednesday", "Thursday", "Friday", "Saturday", "Sunday"]

def hourMinute : Pattern :=
  [number .hour .zeros, literal ':', number .minute .zeros]

def hourMinuteSecond : Pattern :=
  hourMinute ++ [literal ':', number .second .zeros]

def numericDate : Pattern :=
  [number .month .zeros, literal '/', number .day .zeros, literal '/',
    number .yearOfCentury .zeros]

/-- What each letter after the percent sign stands for. -/
def specifiers : List (Char × Pattern) := [
  ('A', [weekdayName false]),
  ('a', [weekdayName true]),
  ('B', [monthName false]),
  ('b', [monthName true]),
  ('h', [monthName true]),
  ('C', [number .century .zeros]),
  ('c', [weekdayName true, literal ' ', monthName true, literal ' ',
    number .day .spaces, literal ' '] ++ hourMinuteSecond ++
      [literal ' ', number .year .zeros]),
  ('D', numericDate),
  ('x', numericDate),
  ('d', [number .day .zeros]),
  ('e', [number .day .spaces]),
  ('F', [number .year .zeros, literal '-', number .month .zeros, literal '-',
    number .day .zeros]),
  ('f', [number .nanosecond .zeros]),
  ('G', [number .isoYear .zeros]),
  ('g', [number .isoYearOfCentury .zeros]),
  ('H', [number .hour .zeros]),
  ('k', [number .hour .spaces]),
  ('I', [number .hour12 .zeros]),
  ('l', [number .hour12 .spaces]),
  ('j', [number .dayOfYear .zeros]),
  ('M', [number .minute .zeros]),
  ('m', [number .month .zeros]),
  ('n', [literal '\n']),
  ('P', [halfDay false]),
  ('p', [halfDay true]),
  ('q', [number .quarter .none]),
  ('R', hourMinute),
  ('r', [number .hour12 .zeros, literal ':', number .minute .zeros, literal ':',
    number .second .zeros, literal ' ', halfDay true]),
  ('S', [number .second .zeros]),
  ('s', [number .epochSeconds .none]),
  ('T', hourMinuteSecond),
  ('X', hourMinuteSecond),
  ('t', [literal '\t']),
  ('U', [number .sundayWeek .zeros]),
  ('u', [number .weekdayFromMonday .none]),
  ('V', [number .isoWeek .zeros]),
  ('v', [number .day .spaces, literal '-', monthName true, literal '-',
    number .year .zeros]),
  ('W', [number .mondayWeek .zeros]),
  ('w', [number .weekdayFromSunday .none]),
  ('Y', [number .year .zeros]),
  ('y', [number .yearOfCentury .zeros]),
  ('Z', [offset [':']]),
  ('z', [offset []]),
  ('+', [timestamp]),
  ('%', [literal '%'])]

/-- The specifiers of more than one character. -/
def longSpecifiers : List (List Char × PatternPart) := [
  (['.', 'f'], shortestFraction),
  (['.', '3', 'f'], fraction true 3),
  (['.', '6', 'f'], fraction true 6),
  (['.', '9', 'f'], fraction true 9),
  (['3', 'f'], fraction false 3),
  (['6', 'f'], fraction false 6),
  (['9', 'f'], fraction false 9),
  ([':', 'z'], offset [':']),
  ([':', ':', 'z'], offsetSeconds),
  ([':', ':', ':', 'z'], offsetHours)]

/-- The padding that a character after the percent sign asks for. -/
def padding? : Char → Option Padding
  | '-' => some .none
  | '0' => some .zeros
  | '_' => some .spaces
  | _ => none

/-- Change the padding of a specifier that writes one number. -/
def repad? (padding : Padding) : Pattern → Option Pattern
  | [number quantity _] => some [number quantity padding]
  | _ => none

/-- A specifier after its percent sign. -/
def readSpecifier? : List Char → Option (Pattern × List Char)
  | [] => none
  | c :: rest =>
      match padding? c, rest with
      | some padding, d :: rest =>
          ((specifiers.lookup d).bind (repad? padding)).map fun parts =>
            (parts, rest)
      | some _, [] => none
      | none, _ =>
          match specifiers.lookup c with
          | some parts => some (parts, rest)
          | none =>
              longSpecifiers.findSome? fun (name, part) =>
                (name.isPrefixOf? (c :: rest)).map fun rest => ([part], rest)

theorem readSpecifier?_length {cs rest : List Char} {parts : Pattern}
    (h : readSpecifier? cs = some (parts, rest)) : rest.length ≤ cs.length := by
  unfold readSpecifier? at h
  split at h
  · simp at h
  · split at h
    · obtain ⟨_, _, h⟩ := Option.map_eq_some_iff.mp h
      cases h
      simp only [List.length_cons]
      omega
    · simp at h
    · split at h
      · cases h
        simp
      · obtain ⟨entry, _, h⟩ := List.exists_of_findSome?_eq_some h
        obtain ⟨tail, htail, h⟩ := Option.map_eq_some_iff.mp h
        cases h
        have hlength := Text.isPrefixOf?_length htail
        omega

/-- Read a pattern, unless it has an unknown specifier. -/
def ofChars? : List Char → Option Pattern
  | [] => some []
  | c :: cs =>
      if c = '%' then
        match _h : readSpecifier? cs with
        | some (parts, rest) => (ofChars? rest).map (parts ++ ·)
        | none => none
      else (ofChars? cs).map (literal c :: ·)
termination_by cs => cs.length
decreasing_by
  · have := readSpecifier?_length _h
    simp only [List.length_cons]
    omega
  · simp

/-- A number of one or two digits.  The tens may exceed nine; they are written
as the character that many places after `0`. -/
def twoDigits (padding : Padding) (n : Nat) : List Char :=
  let tens :=
    match n / 10, padding with
    | 0, .none => []
    | 0, .spaces => [' ']
    | t, _ => [Char.ofNat (48 + t)]
  tens ++ [Char.ofNat (48 + n % 10)]

/-- A number with a sign if it has or needs one, filled up to a width.  Zeros
go between sign and digits, spaces before both. -/
def signedText (padding : Padding) (width : Nat) (plus : Bool) (n : Int) :
    List Char :=
  let sign := if n < 0 then ['-'] else if plus then ['+'] else []
  let digits := decimalDigits n.natAbs
  match padding with
  | .none => sign ++ digits
  | .zeros => sign ++ padLeft '0' (width - sign.length) digits
  | .spaces => padLeft ' ' width (sign ++ digits)

/-- A year of four digits, or with a sign and at least four digits. -/
def paddedYear (padding : Padding) (year : Int) : List Char :=
  if 0 ≤ year ∧ year ≤ 9999 then signedText padding 4 false year
  else signedText padding 5 true year

/-- One number of a timestamp.  The century is kept modulo 256. -/
def numberChars (m : Moment) (padding : Padding) (quantity : Quantity) :
    List Char :=
  let date := m.wallClock.date
  let clock := m.wallClock.clock
  match quantity with
  | .year => paddedYear padding date.year
  | .century => twoDigits padding (date.year / 100 % 256).toNat
  | .yearOfCentury => twoDigits padding (date.year % 100).toNat
  | .isoYear => paddedYear padding date.isoWeek.1
  | .isoYearOfCentury => twoDigits padding (date.isoWeek.1 % 100).toNat
  | .quarter => decimalDigits date.quarter
  | .month => twoDigits padding date.month
  | .day => twoDigits padding date.day
  | .sundayWeek => twoDigits padding (date.weekFrom 6)
  | .mondayWeek => twoDigits padding (date.weekFrom 0)
  | .isoWeek => twoDigits padding date.isoWeek.2
  | .weekdayFromSunday => decimalDigits ((date.weekday + 1) % 7)
  | .weekdayFromMonday => decimalDigits (date.weekday + 1)
  | .dayOfYear => signedText padding 3 false date.ordinal
  | .hour => twoDigits padding clock.hour
  | .hour12 => twoDigits padding ((clock.hour + 11) % 12 + 1)
  | .minute => twoDigits padding clock.minute
  | .second => twoDigits padding clock.shownSecond
  | .nanosecond => signedText padding 9 false clock.shownNanos
  | .epochSeconds => signedText padding 9 false m.epochSeconds

/-- A name from a list, or its first three letters. -/
def nameChars (names : List String) (short : Bool) (i : Nat) : List Char :=
  let name := (names[i]?.getD "").toList
  if short then name.take 3 else name

/-- What one part writes. -/
def partChars? (m : Moment) : PatternPart → Option (List Char)
  | literal c => some [c]
  | number quantity padding => some (numberChars m padding quantity)
  | monthName short =>
      some (nameChars monthNames short (m.wallClock.date.month - 1))
  | weekdayName short =>
      some (nameChars weekdayNames short m.wallClock.date.weekday)
  | halfDay capitals =>
      let half := if m.wallClock.clock.hour < 12 then 'a' else 'p'
      some (if capitals then [half.toUpper, 'M'] else [half, 'm'])
  | shortestFraction => some m.wallClock.clock.fractionChars
  | fraction point digits =>
      some ((if point then ['.'] else []) ++
        zeroPadded digits
          (m.wallClock.clock.shownNanos / Nat.pow 10 (9 - digits)))
  | offset separator => m.offset?.map (offsetChars separator)
  | offsetSeconds => m.offset?.map fun offset =>
      offsetChars [':'] offset ++ [':', '0', '0']
  | offsetHours => m.offset?.map fun offset => (offsetChars [] offset).take 3
  | timestamp => m.offset?.map fun _ => m.chars 'T'

/-- What all parts write. -/
def chars? (pattern : Pattern) (m : Moment) : Option (List Char) :=
  (pattern.mapM (partChars? m)).map List.flatten

end Pattern

/-- Write a timestamp by a pattern. -/
def Moment.format? (m : Moment) (pattern : String) : Option String :=
  (Pattern.ofChars? pattern.toList).bind fun parts =>
    (parts.chars? m).map String.ofList

end Stencil

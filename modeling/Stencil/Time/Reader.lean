/-
Reading timestamps.  An accepted form is a list of items, and the forms are
tried in order: those with an offset, those without one, and the date alone.
A trailing Zulu designator stands for the offset zero.
-/
import Stencil.Number.Numeral
import Stencil.Text.Split
import Stencil.Time.Text

namespace Stencil

/-- One item of a form. -/
inductive FormItem where
  | year
  | month
  | day
  | hour
  | minute
  | second
  | fraction
  | offset
  | blanks
  | literal (c : Char)
deriving DecidableEq, Repr

abbrev TimeForm := List FormItem

/-- What the items of a form said. -/
structure TimeFields where
  year : Int := 0
  month : Nat := 0
  day : Nat := 0
  hour : Nat := 0
  minute : Nat := 0
  second : Nat := 0
  fraction : Nat := 0
  offset : Int := 0
deriving DecidableEq, Repr

namespace TimeFields

def date (f : TimeFields) : Date :=
  ⟨f.year, f.month, f.day⟩

/-- A second numbered 60 is a leap second. -/
def clock (f : TimeFields) : Clock :=
  if f.second = 60 then ⟨f.hour, f.minute, 59, secondNanos + f.fraction⟩
  else ⟨f.hour, f.minute, f.second, f.fraction⟩

/-- The reading, if calendar and clock admit it. -/
def dateTime? (f : TimeFields) : Option DateTime :=
  if f.date.isValid && f.clock.isValid then some ⟨f.date, f.clock⟩ else none

end TimeFields

namespace TimeForm

open Text

/-- At most `width` decimal digits, and at least one. -/
def readDigits? (width : Nat) (cs : List Char) : Option (Nat × List Char) :=
  let digits := (cs.take width).takeWhile Char.isDigit
  if digits.isEmpty then none
  else some (Numeral.digitsValue digits, cs.drop digits.length)

/-- A field of one or two digits after white space. -/
def readField? (cs : List Char) : Option (Nat × List Char) :=
  readDigits? 2 (cs.dropWhile isBlank)

/-- A year after white space: up to four digits, or a sign and any number of
digits. -/
def readYear? (cs : List Char) : Option (Int × List Char) :=
  match cs.dropWhile isBlank with
  | '-' :: rest => (readDigits? rest.length rest).map fun (n, rest) =>
      (-(n : Int), rest)
  | '+' :: rest => (readDigits? rest.length rest).map fun (n, rest) =>
      ((n : Int), rest)
  | rest => (readDigits? 4 rest).map fun (n, rest) => ((n : Int), rest)

/-- A point and digits, or nothing.  Digits after the ninth are dropped. -/
def readFraction? : List Char → Option (Nat × List Char)
  | '.' :: rest =>
      let digits := rest.takeWhile Char.isDigit
      if digits.isEmpty then none
      else
        let kept := digits.take 9
        some (Numeral.digitsValue kept * Nat.pow 10 (9 - kept.length),
          rest.dropWhile Char.isDigit)
  | cs => some (0, cs)

/-- Exactly two digits. -/
def readPair? : List Char → Option (Nat × List Char)
  | a :: b :: rest =>
      if a.isDigit && b.isDigit then some (Numeral.digitsValue [a, b], rest)
        else none
  | _ => none

/-- The signs of an offset; the minus sign proper is one of them. -/
def readOffsetSign? : List Char → Option (Bool × List Char)
  | c :: rest =>
      if c = '+' then some (false, rest)
      else if c = '-' ∨ c = '\u2212' then some (true, rest)
      else none
  | [] => none

/-- An offset of less than a day: sign, hours and minutes, with colons and
white space between them. -/
def readOffset? (cs : List Char) : Option (Int × List Char) := do
  let (negative, rest) ← readOffsetSign? (cs.dropWhile isBlank)
  let (hours, rest) ← readPair? rest
  let (minutes, rest) ← readPair?
      (rest.dropWhile fun c => c == ':' || isBlank c)
  if hours < 24 ∧ minutes < 60 then
    some (Double.signed negative (hours * 3600 + minutes * 60), rest)
  else none

/-- Read what one item stands for. -/
def readItem? (item : FormItem) (f : TimeFields) (cs : List Char) :
    Option (TimeFields × List Char) :=
  match item with
  | .year => (readYear? cs).map fun (n, rest) => ({ f with year := n }, rest)
  | .month => (readField? cs).map fun (n, rest) => ({ f with month := n }, rest)
  | .day => (readField? cs).map fun (n, rest) => ({ f with day := n }, rest)
  | .hour => (readField? cs).map fun (n, rest) => ({ f with hour := n }, rest)
  | .minute => (readField? cs).map fun (n, rest) =>
      ({ f with minute := n }, rest)
  | .second => (readField? cs).map fun (n, rest) =>
      ({ f with second := n }, rest)
  | .fraction => (readFraction? cs).map fun (n, rest) =>
      ({ f with fraction := n }, rest)
  | .offset => (readOffset? cs).map fun (n, rest) =>
      ({ f with offset := n }, rest)
  | .blanks => some (f, cs.dropWhile isBlank)
  | .literal c => ([c].isPrefixOf? cs).map fun rest => (f, rest)

/-- Read the items one after the other. -/
def readItems? :
    TimeForm → TimeFields → List Char → Option (TimeFields × List Char)
  | [], f, cs => some (f, cs)
  | item :: items, f, cs => do
      let (f, rest) ← readItem? item f cs
      readItems? items f rest

/-- Read a whole text by a form. -/
def read? (form : TimeForm) (cs : List Char) : Option TimeFields :=
  match readItems? form {} cs with
  | some (f, []) => some f
  | _ => none

/-- Year, month and day. -/
def date : TimeForm :=
  [.year, .literal '-', .month, .literal '-', .day]

/-- Seconds with a fraction, seconds, or no seconds. -/
def clocks : List TimeForm :=
  [[.hour, .literal ':', .minute, .literal ':', .second, .fraction],
    [.hour, .literal ':', .minute, .literal ':', .second],
    [.hour, .literal ':', .minute]]

/-- A `T` or white space. -/
def separators : List FormItem :=
  [.literal 'T', .blanks]

/-- The forms with date and time. -/
def naiveForms : List TimeForm :=
  clocks.flatMap fun clock => separators.map fun separator =>
    date ++ separator :: clock

/-- The forms with date, time and offset. -/
def zonedForms : List TimeForm :=
  naiveForms.map (· ++ [.offset])

/-- What a form without an offset makes of a text. -/
def naive? (cs : List Char) (form : TimeForm) : Option Moment :=
  (read? form cs).bind fun f => f.dateTime?.map Moment.naive

/-- What a form with an offset makes of a text. -/
def zoned? (cs : List Char) (form : TimeForm) : Option Moment :=
  (read? form cs).bind fun f => f.dateTime?.bind fun wall =>
    Moment.ofWallClock? wall f.offset

end TimeForm

namespace Moment

open TimeForm

/-- The text before a final Zulu designator. -/
def beforeZulu? (cs : List Char) : Option (List Char) :=
  match cs.reverse with
  | c :: before => if c = 'Z' ∨ c = 'z' then some before.reverse else none
  | [] => none

/-- Read a text by the first form that accepts it. -/
def ofTrimmed? (cs : List Char) : Option Moment :=
  match beforeZulu? cs with
  | some before => zonedForms.findSome? (zoned? (before ++ "+00:00".toList))
  | none =>
      ((zonedForms.findSome? (zoned? cs)).or
        (naiveForms.findSome? (naive? cs))).or
        (naive? cs TimeForm.date)

/-- Read a timestamp, white space around it aside. -/
def ofChars? (cs : List Char) : Option Moment :=
  ofTrimmed? (Text.trimBlanks cs)

def ofText? (s : String) : Option Moment :=
  ofChars? s.toList

example : ofText? "2024-01-15" =
    some (naive ⟨⟨2024, 1, 15⟩, Clock.midnight⟩) := by decide +kernel
example : ofText? "2024-01-15T10:30Z" =
    some (zoned ⟨⟨2024, 1, 15⟩, ⟨10, 30, 0, 0⟩⟩ 0) := by
  decide +kernel
example : ofText? "2024-02-30" = none := by decide +kernel

end Moment

end Stencil

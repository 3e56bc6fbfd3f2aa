/-
Strings, numbers, truth values and points in time as a settings file writes
them.  Readers return what they read with the rest of the text.
-/
import Stencil.Number.Numeral
import Stencil.Time.Moment
import Stencil.Text.Split
import Stencil.Toml.Value

namespace Stencil.Toml

def isBlank (c : Char) : Bool :=
  c == ' ' || c == '\t'

/-- Whether the character may stand in a comment or on a line of a string. -/
def isPlain (c : Char) : Bool :=
  c == '\t' || (0x20 ≤ c.toNat && c.toNat != 0x7F)

/-- The rest of the text after a line break. -/
def takeBreak? : List Char → Option (List Char)
  | '\n' :: cs => some cs
  | '\r' :: '\n' :: cs => some cs
  | _ => none

/-- The text after blanks and line breaks. -/
def skipLayout : List Char → List Char
  | [] => []
  | '\r' :: '\n' :: cs => skipLayout cs
  | c :: cs => if isBlank c || c == '\n' then skipLayout cs else c :: cs

/-- A character given by a number of hexadecimal digits. -/
def readCode? (width : Nat) (cs : List Char) : Option (Char × List Char) := do
  let digits := cs.take width
  let n ← if digits.length = width then Numeral.valueInBase? 16 digits else none
  if n < 0xD800 ∨ (0xE000 ≤ n ∧ n < 0x110000) then
    some (Char.ofNat n, cs.drop width)
  else none

/-- The character of an escape, after the backslash. -/
def readEscape? : List Char → Option (Char × List Char)
  | 'b' :: cs => some ('\x08', cs)
  | 't' :: cs => some ('\t', cs)
  | 'n' :: cs => some ('\n', cs)
  | 'f' :: cs => some ('\x0C', cs)
  | 'r' :: cs => some ('\r', cs)
  | 'e' :: cs => some ('\x1B', cs)
  | '"' :: cs => some ('"', cs)
  | '\\' :: cs => some ('\\', cs)
  | 'x' :: cs => readCode? 2 cs
  | 'u' :: cs => readCode? 4 cs
  | 'U' :: cs => readCode? 8 cs
  | _ => none

/-- How a string is written: its quote, and whether it may span lines.  Only
double quotes allow escapes. -/
structure StringForm where
  quote : Char
  spansLines : Bool
deriving DecidableEq, Repr

/-- The end of a string: one quote, or three to five of them, of which those
beyond the third belong to the string. -/
def StringForm.takeEnd? (form : StringForm) (cs : List Char) :
    Option (List Char × List Char) :=
  if form.spansLines then
    let run := (cs.takeWhile (· = form.quote)).take 5
    if run.length < 3 then none else some (run.drop 3, cs.drop run.length)
  else
    match cs with
    | c :: cs => if c = form.quote then some ([], cs) else none
    | [] => none

/-- The rest of the text after the line break that an escape takes away with
all layout after it. -/
def takeContinuation? (cs : List Char) : Option (List Char) :=
  (takeBreak? (cs.dropWhile isBlank)).map skipLayout

/-- Whether a character may stand for itself in a string. -/
def StringForm.admits (form : StringForm) (c : Char) (rest : List Char) :
    Bool :=
  isPlain c || (form.spansLines && (takeBreak? (c :: rest)).isSome)

/-- The characters of a string up to its end.  Every step takes at least one
character, so the length of the text bounds the number of steps. -/
def readStringBody? (form : StringForm) :
    Nat → List Char → Option (List Char × List Char)
  | 0, _ => none
  | fuel + 1, cs =>
      match form.takeEnd? cs, cs with
      | some (last, rest), _ => some (last, rest)
      | none, [] => none
      | none, c :: rest =>
          if c = '\\' ∧ form.quote = '"' then
            match (if form.spansLines then takeContinuation?
              rest else none) with
            | some rest => readStringBody? form fuel rest
            | none => do
                let (x, rest) ← readEscape? rest
                let (body, rest) ← readStringBody? form fuel rest
                some (x :: body, rest)
          else if form.admits c rest then do
            let (body, rest) ← readStringBody? form fuel rest
            some (c :: body, rest)
          else none

/-- The form of the string that a text begins with, and what follows its
opening quotes.  A line break right after three quotes is not part of the
string. -/
def takeOpening? : List Char → Option (StringForm × List Char)
  | a :: cs =>
      if a = '"' ∨ a = '\'' then
        match cs with
        | b :: c :: cs' =>
            if a = b ∧ b = c then some (⟨a, true⟩, (takeBreak? cs').getD cs')
            else some (⟨a, false⟩, cs)
        | _ => some (⟨a, false⟩, cs)
      else none
  | [] => none

def readString? (cs : List Char) :
    Option (StringForm × String × List Char) := do
  let (form, rest) ← takeOpening? cs
  let (body, rest) ← readStringBody? form (rest.length + 1) rest
  some (form, String.ofList body, rest)

/-- Digits that may be set apart by single underscores, without these. -/
def ungroup? (isDigit : Char → Bool) : List Char → Option (List Char)
  | [] => none
  | [c] => if isDigit c then some [c] else none
  | c :: '_' :: cs =>
      if isDigit c then (ungroup? isDigit cs).map (c :: ·) else none
  | c :: cs => if isDigit c then (ungroup? isDigit cs).map (c :: ·) else none

/-- The digits of a whole number, without a superfluous leading zero. -/
def wholeDigits? (cs : List Char) : Option (List Char) :=
  (ungroup? Char.isDigit cs).filter fun digits => digits.length = 1 ∨
    digits.head? ≠ some '0'

/-- An integer of 64 bits, with or without a sign. -/
def ofInteger? (n : Int) : Option Toml :=
  if Numeral.inWord64 n then some (integer n) else none

/-- An integer in base ten with an optional sign, or in another base after a
prefix. -/
def readInteger? (word : List Char) : Option Toml :=
  match word with
  | '0' :: 'x' :: cs => inBase 16 cs
  | '0' :: 'o' :: cs => inBase 8 cs
  | '0' :: 'b' :: cs => inBase 2 cs
  | _ =>
      let (negative, cs) := Numeral.takeSign word
      (wholeDigits? cs).bind fun digits =>
        ofInteger? (Double.signed negative (Numeral.digitsValue digits))
where
  inBase (base : Nat) (cs : List Char) : Option Toml := do
    let digits ← ungroup? (fun c => (Numeral.hexDigit? c).isSome) cs
    let n ← Numeral.valueInBase? base digits
    ofInteger? n

/-- The exponent after its mark. -/
def readPower? : List Char → Option (Option Int)
  | [] => some none
  | _ :: cs =>
      let (negative, cs) := Numeral.takeSign cs
      (ungroup? Char.isDigit cs).map fun digits =>
        some (Double.signed negative (Numeral.digitsValue digits))

/-- A number with a fraction or an exponent, infinity or NaN. -/
def readFloat? (word : List Char) : Option Toml := do
  let (negative, cs) := Numeral.takeSign word
  if cs = ['i', 'n', 'f'] then some (float (.infinite negative))
  else if cs = ['n', 'a', 'n'] then some (float .nan)
  else
    let mantissa := cs.takeWhile fun c => c ≠ 'e' ∧ c ≠ 'E'
    let power ← readPower? (cs.drop mantissa.length)
    let whole ← wholeDigits? (mantissa.takeWhile (· ≠ '.'))
    let places ←
      match mantissa.dropWhile (· ≠ '.') with
      | [] => some []
      | _ :: places => ungroup? Char.isDigit places
    let x := Double.ofDecimal negative (Numeral.digitsValue (whole ++ places))
      (power.getD 0 - places.length)
    if x.isFinite && (power.isSome || !places.isEmpty) then some (float x)
      else none

/-- A number of a fixed count of digits. -/
def readFixed? (width : Nat) (cs : List Char) : Option (Nat × List Char) :=
  let digits := cs.take width
  if digits.length = width ∧ digits.all Char.isDigit then
    some (Numeral.digitsValue digits, cs.drop width)
  else none

/-- The rest of a text after a character that it must begin with. -/
def expect? (c : Char) : List Char → Option (List Char)
  | [] => none
  | x :: cs => if x = c then some cs else none

def readDate? (cs : List Char) : Option (Date × List Char) := do
  let (year, rest) ← readFixed? 4 cs
  let (month, rest) ← readFixed? 2 (← expect? '-' rest)
  let (day, rest) ← readFixed? 2 (← expect? '-' rest)
  let date : Date := ⟨year, month, day⟩
  if date.isValid then some (date, rest) else none

/-- Hours and minutes. -/
def readHourMinute? (cs : List Char) : Option (List Char) := do
  let (hour, rest) ← readFixed? 2 cs
  let (minute, rest) ← readFixed? 2 (← expect? ':' rest)
  if hour < 24 ∧ minute < 60 then some rest else none

/-- A time of day, its seconds and their fraction being optional. -/
def readClock? (cs : List Char) : Option (List Char) := do
  let rest ← readHourMinute? cs
  match rest with
  | ':' :: rest =>
      let (second, rest) ← readFixed? 2 rest
      if second ≤ 60 then
        match rest with
        | '.' :: rest =>
            if (rest.takeWhile Char.isDigit).isEmpty then none
            else some (rest.dropWhile Char.isDigit)
        | _ => some rest
      else none
  | _ => some rest

/-- Whether the text is an offset, or empty. -/
def isOffset : List Char → Bool
  | [] => true
  | ['Z'] => true
  | ['z'] => true
  | '+' :: cs => readHourMinute? cs == some []
  | '-' :: cs => readHourMinute? cs == some []
  | _ => false

/-- Whether the text is a time of day, a date, or both with an optional
offset. -/
def isMoment (word : List Char) : Bool :=
  readClock? word == some [] ||
    match readDate? word with
    | some (_, []) => true
    | some (_, c :: cs) =>
        (c == 'T' || c == 't' || c == ' ') &&
          (match readClock? cs with
            | some rest => isOffset rest
            | none => false)
    | none => false

def isWordChar (c : Char) : Bool :=
  c.isAlphanum || c == '_' || c == '+' || c == '-' || c == '.' || c == ':'

/-- The word that a text begins with.  A blank between a date and a time of
day belongs to the word. -/
def takeWord (cs : List Char) : List Char × List Char :=
  let word := cs.takeWhile isWordChar
  match (readDate? word).map Prod.snd, cs.drop word.length with
  | some [], ' ' :: c :: cs =>
      if c.isDigit then
        (word ++ ' ' :: (c :: cs).takeWhile isWordChar,
          (c :: cs).dropWhile isWordChar)
      else (word, ' ' :: c :: cs)
  | _, rest => (word, rest)

/-- A value written as a single word. -/
def ofWord? (word : List Char) : Option Toml :=
  if word = ['t', 'r', 'u', 'e'] then some (boolean true)
  else if word = ['f', 'a', 'l', 's', 'e'] then some (boolean false)
  else if isMoment word then some (moment (String.ofList word))
  else (readInteger? word).orElse fun _ => readFloat? word

end Stencil.Toml

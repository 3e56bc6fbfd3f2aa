/-
Reading JSON text.  Readers take a list of characters and return what they
read with the rest of the text.  Containers may be nested 127 deep, numbers may
not overflow, and escaped surrogates must come in pairs.
-/
import Stencil.Json.Value
import Stencil.Number.Numeral

namespace Stencil.Json

/-- The four characters that may stand between tokens. -/
def isSpace (c : Char) : Bool :=
  c == ' ' || c == '\n' || c == '\t' || c == '\r'

def skipSpace (cs : List Char) : List Char :=
  cs.dropWhile isSpace

/-- Four hexadecimal digits. -/
def readUnit? : List Char → Option (Nat × List Char)
  | a :: b :: c :: d :: rest => do
      let a ← Numeral.hexDigit? a
      let b ← Numeral.hexDigit? b
      let c ← Numeral.hexDigit? c
      let d ← Numeral.hexDigit? d
      some (((a * 16 + b) * 16 + c) * 16 + d, rest)
  | _ => none

/-- A character written as one unit, or as a high and a low surrogate. -/
def readEscapedChar? (cs : List Char) : Option (Char × List Char) := do
  let (unit, rest) ← readUnit? cs
  if 0xDC00 ≤ unit ∧ unit ≤ 0xDFFF then none
  else if 0xD800 ≤ unit ∧ unit ≤ 0xDBFF then
    match rest with
    | '\\' :: 'u' :: more =>
        let (low, rest) ← readUnit? more
        if 0xDC00 ≤ low ∧ low ≤ 0xDFFF then
          some (Char.ofNat (0x10000 + (unit - 0xD800) * 0x400 + (low - 0xDC00)),
            rest)
        else none
    | _ => none
  else some (Char.ofNat unit, rest)

/-- The character that a one-letter escape stands for. -/
def shortEscape? : Char → Option Char
  | '"' => some '"'
  | '\\' => some '\\'
  | '/' => some '/'
  | 'b' => some '\x08'
  | 'f' => some '\x0C'
  | 'n' => some '\n'
  | 'r' => some '\r'
  | 't' => some '\t'
  | _ => none

/-- The characters of a string up to its closing quote.  Every step takes at
least one character, so the length of the text bounds the number of steps. -/
def readStringBody? : Nat → List Char → Option (List Char × List Char)
  | 0, _ => none
  | _ + 1, [] => none
  | fuel + 1, c :: cs =>
      if c = '"' then some ([], cs)
      else if c = '\\' then
        match cs with
        | [] => none
        | 'u' :: more => do
            let (x, rest) ← readEscapedChar? more
            let (body, rest) ← readStringBody? fuel rest
            some (x :: body, rest)
        | e :: more => do
            let x ← shortEscape? e
            let (body, rest) ← readStringBody? fuel more
            some (x :: body, rest)
      else if c.toNat < 32 then none
      else do
        let (body, rest) ← readStringBody? fuel cs
        some (c :: body, rest)

/-- A string after its opening quote. -/
def readString? (cs : List Char) : Option (String × List Char) := do
  let (body, rest) ← readStringBody? (cs.length + 1) cs
  some (String.ofList body, rest)

/-- A whole number without a superfluous leading zero. -/
def readWhole? : List Char → Option (List Char × List Char)
  | '0' :: cs =>
      match cs with
      | c :: _ => if c.isDigit then none else some (['0'], cs)
      | [] => some (['0'], [])
  | cs =>
      let digits := cs.takeWhile Char.isDigit
      if digits.isEmpty then none else some (digits, cs.dropWhile Char.isDigit)

/-- The digits after a decimal point, or nothing if there is no point. -/
def readFraction? : List Char → Option (Option (List Char) × List Char)
  | '.' :: cs =>
      let digits := cs.takeWhile Char.isDigit
      if digits.isEmpty then none
        else some (some digits, cs.dropWhile Char.isDigit)
  | cs => some (none, cs)

/-- The exponent after `e` or `E`, or nothing if there is no such mark. -/
def readPower? : List Char → Option (Option Int × List Char)
  | [] => some (none, [])
  | c :: cs =>
      if c = 'e' ∨ c = 'E' then
        let (negative, cs) := Numeral.takeSign cs
        let digits := cs.takeWhile Char.isDigit
        if digits.isEmpty then none
        else some (some (Double.signed negative (Numeral.digitsValue digits)),
          cs.dropWhile Char.isDigit)
      else some (none, c :: cs)

/-- The value of an integer literal: an integer if it fits 64 bits with or
without a sign, the nearest double otherwise, as for `readNumber?`.  A negative
zero is a double. -/
def ofIntegerLiteral? (negative : Bool) (n : Nat) : Option Json :=
  if negative then
    if n = 0 then some (number (Double.zero true))
    else if Numeral.inWord64 (-(n : Int)) then some (integer (-(n : Int)))
    else ofDouble? (Double.ofDecimal true n 0)
  else if Numeral.inWord64 n then some (integer n)
  else ofDouble? (Double.ofDecimal false n 0)
where
  ofDouble? (x : Double) : Option Json :=
    if x.isFinite then some (number x) else none

/-- A number literal.  What is no integer of 64 bits is rounded to the nearest
double.  That is an assumption about the reader of JSON: one that trades
accuracy for speed may give a neighbour of this double instead. -/
def readNumber? (cs : List Char) : Option (Json × List Char) := do
  let (negative, body) :=
    match cs with
    | '-' :: rest => (true, rest)
    | _ => (false, cs)
  let (whole, rest) ← readWhole? body
  let (fraction, rest) ← readFraction? rest
  let (power, rest) ← readPower? rest
  match fraction, power with
  | none, none =>
      (ofIntegerLiteral? negative (Numeral.digitsValue whole)).map (·, rest)
  | _, _ =>
      let places := fraction.getD []
      let x := Double.ofDecimal negative (Numeral.digitsValue (whole ++ places))
        (power.getD 0 - places.length)
      if x.isFinite then some (number x, rest) else none

/-- A keyword, which must be followed as written. -/
def readWord? (word : String) (value : Json) (cs : List Char) :
    Option (Json × List Char) :=
  let letters := word.toList
  if cs.take letters.length = letters then some (value, cs.drop letters.length)
    else none

/-- The items after an opening bracket or a comma, up to the closing bracket. -/
def readItems? (item : List Char → Option (Json × List Char)) :
    Nat → List Char → Option (List Json × List Char)
  | 0, _ => none
  | fuel + 1, cs => do
      let (value, rest) ← item cs
      match skipSpace rest with
      | ']' :: rest => some ([value], rest)
      | ',' :: rest =>
          let (values, rest) ← readItems? item fuel rest
          some (value :: values, rest)
      | _ => none

/-- The fields after an opening brace or a comma, up to the closing brace. -/
def readFields? (item : List Char → Option (Json × List Char)) :
    Nat → List Char → Option (List (String × Json) × List Char)
  | 0, _ => none
  | fuel + 1, cs =>
      match skipSpace cs with
      | '"' :: rest => do
          let (name, rest) ← readString? rest
          match skipSpace rest with
          | ':' :: rest =>
              let (value, rest) ← item rest
              match skipSpace rest with
              | '}' :: rest => some ([(name, value)], rest)
              | ',' :: rest =>
                  let (fields, rest) ← readFields? item fuel rest
                  some ((name, value) :: fields, rest)
              | _ => none
          | _ => none
      | _ => none

/-- A value in which containers are nested at most `depth` deep. -/
def readValue? : Nat → List Char → Option (Json × List Char)
  | depth, cs =>
      match skipSpace cs with
      | [] => none
      | '"' :: rest => (readString? rest).map fun (s, rest) => (string s, rest)
      | '[' :: rest =>
          match depth with
          | 0 => none
          | inner + 1 =>
              match skipSpace rest with
              | ']' :: rest => some (array [], rest)
              | _ => (readItems? (readValue? inner) (rest.length + 1) rest).map
                  fun (items, rest) => (array items, rest)
      | '{' :: rest =>
          match depth with
          | 0 => none
          | inner + 1 =>
              match skipSpace rest with
              | '}' :: rest => some (object [], rest)
              | _ => (readFields? (readValue? inner) (rest.length + 1) rest).map
                  fun (fields, rest) => (object fields, rest)
      | 't' :: rest => readWord? "rue" (bool true) rest
      | 'f' :: rest => readWord? "alse" (bool false) rest
      | 'n' :: rest => readWord? "ull" null rest
      | c :: rest => readNumber? (c :: rest)

/-- The deepest nesting of containers that is read. -/
def maxDepth : Nat := 127

/-- Read a whole text, keeping the fields of objects as they were written. -/
def ofTextAsWritten? (text : String) : Option Json :=
  match readValue? maxDepth text.toList with
  | some (value, rest) => if skipSpace rest = [] then some value else none
  | none => none

/-- Read a whole text into canonical form. -/
def ofText? (text : String) : Option Json :=
  (ofTextAsWritten? text).map canonical

/-- Read a text that must hold an object. -/
def objectOfText? (text : String) : Option (Entries Json) :=
  match ofText? text with
  | some (object fields) => some fields
  | _ => none

end Stencil.Json

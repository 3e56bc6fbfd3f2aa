/-
The words of the code inside a tag: names, numbers, strings and symbols.  A
word that cannot be read stands for its own failure, so the failure counts only
when a reader comes to it.
-/
import Stencil.Json.Reader
import Stencil.Template.Fault
import Stencil.Text.Split

namespace Stencil.Template

inductive Token where
  | name (text : String)
  | integer (value : Nat)
  | float (value : Double)
  | string (text : List Char)
  | symbol (text : String)
  | unreadable (failure : Failure)
deriving DecidableEq, Repr

/-- A word and the line on which it begins. -/
structure Lexeme where
  token : Token
  line : Nat
deriving DecidableEq, Repr

/-- White space between words. -/
def isCodeBlank (c : Char) : Bool :=
  c == ' ' || c == '\t' || c == '\n' || c == '\x0C' || c == '\r'

def isNameStart (c : Char) : Bool :=
  c.isAlpha || c == '_'

def isNameChar (c : Char) : Bool :=
  c.isAlphanum || c == '_'

/-- The line after a text has been passed. -/
def passLines (line : Nat) (passed : List Char) : Nat :=
  line + passed.count '\n'

namespace Token

/-- What a part of a numeral may be followed by. -/
inductive NumeralPart where
  | whole
  | fraction
  | exponentMark
  | exponent
deriving DecidableEq, Repr

/-- The part that a character continues, if it belongs to the numeral. -/
def NumeralPart.next? (part : NumeralPart) (c : Char) : Option NumeralPart :=
  if c = '.' ∧ part = whole then some fraction
  else if (c = 'e' ∨ c = 'E') ∧ (part = whole ∨ part = fraction) then
    some exponentMark
  else if (c = '+' ∨ c = '-') ∧ part = exponentMark then some exponent
  else if c.isDigit then some (if part = exponentMark then exponent else part)
  else if c = '_' then some part
  else none

/-- Whether a text begins with an exponent: its mark, perhaps a sign, and a
digit. -/
def beginsExponent : List Char → Bool
  | mark :: sign :: digit :: _ =>
      mark.toLower == 'e' &&
        (sign.isDigit || ((sign == '+' || sign == '-') && digit.isDigit))
  | [mark, digit] => mark.toLower == 'e' && digit.isDigit
  | _ => false

/-- Whether what follows a point is the name of a member.  An exponent after
the point belongs to the number. -/
def beginsMember (cs : List Char) : Bool :=
  cs.head?.any isNameStart && !beginsExponent cs

/-- The characters of a decimal numeral, and whether it is a whole number. -/
def takeNumeral (part : NumeralPart) :
    List Char → List Char × NumeralPart × List Char
  | [] => ([], part, [])
  | c :: cs =>
      match (if c = '.' ∧ beginsMember cs then none else part.next? c) with
      | some next =>
          let (taken, last, rest) := takeNumeral next cs
          (c :: taken, last, rest)
      | none => ([], part, c :: cs)

/-- Digits in a base, without underscores and not ending in one. -/
def readDigits? (base : Nat) (cs : List Char) : Option Nat :=
  if cs.getLast? = some '_' then none
  else
    let digits := cs.filter (· ≠ '_')
    if digits.isEmpty then none else Numeral.valueInBase? base digits

/-- One above the largest whole number of 128 bits. -/
def wholeEnd : Nat := 340282366920938463463374607431768211456

/-- A whole number of at most 128 bits. -/
def ofDigits (base : Nat) (cs : List Char) : Token :=
  match readDigits? base cs with
  | some n => if n < wholeEnd then integer n else unreadable .malformed
  | none => unreadable .malformed

/-- A numeral with a fraction or exponent. -/
def ofFloatText (cs : List Char) : Token :=
  if cs.getLast? = some '_' then unreadable .malformed
  else
    match Numeral.readDouble? (cs.filter (· ≠ '_')) with
    | some x => float x
    | none => unreadable .malformed

/-- The base that a prefix of two characters announces. -/
def baseOf? : List Char → Option Nat
  | '0' :: c :: _ =>
      match c.toLower with
      | 'b' => some 2
      | 'o' => some 8
      | 'x' => some 16
      | _ => none
  | _ => none

/-- The digits that a numeral with a base may consist of. -/
def isBaseChar (base : Nat) (c : Char) : Bool :=
  c.isDigit || c == '_' || (base == 16 && (Numeral.hexDigit? c).isSome)

def readNumeral (cs : List Char) : Token × List Char :=
  match baseOf? cs with
  | some base =>
      let body := cs.drop 2
      (ofDigits base (body.takeWhile (isBaseChar base)),
        body.dropWhile (isBaseChar base))
  | none =>
      let (taken, part, rest) := takeNumeral .whole cs
      (if part = .whole then ofDigits 10 taken else ofFloatText taken, rest)

/-- The text up to the closing quote, escapes kept. -/
def takeQuoted? (quote : Char) : List Char → Option (List Char × List Char)
  | [] => none
  | '\\' :: c :: cs =>
      (takeQuoted? quote cs).map fun (body, rest) => ('\\' :: c :: body, rest)
  | c :: cs =>
      if c = quote then some ([], cs)
      else if c = '\\' then none
      else (takeQuoted? quote cs).map fun (body, rest) => (c :: body, rest)

/-- The character of a one-letter escape. -/
def escaped? : Char → Option Char
  | '\'' => some '\''
  | c => Json.shortEscape? c

/-- Four hexadecimal digits; a plus sign may stand for the first. -/
def readUnit? : List Char → Option (Nat × List Char)
  | '+' :: cs => (Json.readUnit? ('0' :: cs))
  | cs => Json.readUnit? cs

/-- A character written in hexadecimal, or as two surrogates. -/
def readEscapedUnit? (cs : List Char) : Option (Char × List Char) := do
  let (unit, rest) ← readUnit? cs
  if 0xD800 ≤ unit ∧ unit ≤ 0xDBFF then
    match rest with
    | '\\' :: 'u' :: more =>
        let (low, rest) ← readUnit? more
        if 0xDC00 ≤ low ∧ low ≤ 0xDFFF then
          some (Char.ofNat (0x10000 + (unit - 0xD800) * 0x400 + (low - 0xDC00)),
            rest)
        else none
    | _ => none
  else if 0xDC00 ≤ unit ∧ unit ≤ 0xDFFF then none
  else some (Char.ofNat unit, rest)

/-- A character below 256 written as two hexadecimal digits; a plus sign may
stand for the first. -/
def readHexPair? : List Char → Option (Char × List Char)
  | a :: b :: cs => do
      let high ← if a = '+' then some 0 else Numeral.hexDigit? a
      let low ← Numeral.hexDigit? b
      some (Char.ofNat (high * 16 + low), cs)
  | _ => none

def isOctalDigit (c : Char) : Bool :=
  '0' ≤ c && c ≤ '7'

/-- A character below 256 written as one to three octal digits. -/
def readOctal? (cs : List Char) : Option (Char × List Char) := do
  let digits := (cs.take 3).takeWhile isOctalDigit
  let code ← Numeral.valueInBase? 8 digits
  if code < 256 then some (Char.ofNat code, cs.drop digits.length) else none

/-- What the text after a backslash begins with: the characters it stands for.
A backslash that begins no escape stands for itself. -/
def readEscape? : List Char → Option (List Char × List Char)
  | [] => none
  | 'u' :: cs => (readEscapedUnit? cs).map fun (c, rest) => ([c], rest)
  | 'x' :: cs => (readHexPair? cs).map fun (c, rest) => ([c], rest)
  | e :: cs =>
      if isOctalDigit e then (readOctal? (e :: cs)).map fun (c, rest) =>
        ([c], rest)
      else
        match escaped? e with
        | some c => some ([c], cs)
        | none => some (['\\', e], cs)

/-- Replace escapes by what they stand for.  Every step takes a character, so
the length bounds their number. -/
def unescape? : Nat → List Char → Option (List Char)
  | _, [] => some []
  | 0, _ => none
  | fuel + 1, '\\' :: cs => do
      let (written, rest) ← readEscape? cs
      (unescape? fuel rest).map (written ++ ·)
  | fuel + 1, c :: cs => (unescape? fuel cs).map (c :: ·)

/-- A string after its opening quote. -/
def readString (quote : Char) (line : Nat) (cs : List Char) :
    Token × List Char :=
  match takeQuoted? quote cs with
  | none => (unreadable .malformed, [])
  | some (body, rest) =>
      match unescape? body.length body with
      | some text => (string text, rest)
      | none => (unreadable (.fault .badEscape line), rest)

/-- The symbols of two characters. -/
def pairs : List String :=
  ["//", "**", "==", "!=", ">=", "<="]

/-- The symbols of one character. -/
def singles : List Char :=
  ['+', '-', '*', '/', '%', '.', ',', ':', '~', '|', '=', '>', '<', '(', ')',
    '[', ']', '\x7b', '\x7d']

/-- The word at the start of a text without leading white space. -/
def read (line : Nat) : List Char → Token × List Char
  | [] => (unreadable .malformed, [])
  | c :: cs =>
      if pairs.contains (String.ofList ((c :: cs).take 2)) then
        (symbol (String.ofList ((c :: cs).take 2)), cs.drop 1)
      else if singles.contains c then (symbol (String.ofList [c]), cs)
      else if c = '"' ∨ c = '\'' then readString c line cs
      else if c.isDigit then readNumeral (c :: cs)
      else if isNameStart c then
        (name (String.ofList (c :: cs.takeWhile isNameChar)),
          cs.dropWhile isNameChar)
      else (unreadable .malformed, [])

end Token

/-- The end of a tag: a sign, if any, and the closing pair.  A minus sign asks
for trimming after the tag. -/
def readClosing? (closing : Char) (cs : List Char) :
    Option (Bool × List Char) :=
  match [closing, '\x7d'].isPrefixOf? cs with
  | some rest => some (false, rest)
  | none =>
      match cs with
      | c :: cs =>
          if c = '-' ∨ c = '+' then
            ([closing, '\x7d'].isPrefixOf? cs).map fun rest => (c = '-', rest)
          else none
      | [] => none

/-- What a tag holds, and how the text goes on after it. -/
structure TagContent where
  lexemes : List Lexeme
  trimAfter : Bool
  rest : List Char
deriving Repr

/-- A tag that breaks off. -/
def TagContent.broken (failure : Failure) (line : Nat) : TagContent :=
  ⟨[⟨.unreadable failure, line⟩], false, []⟩

/-- How many brackets are open after a word. -/
def Token.nesting (depth : Nat) : Token → Nat
  | symbol text =>
      if ["(", "[", "\x7b"].contains text then depth + 1
      else if [")", "]", "\x7d"].contains text then depth - 1
      else depth
  | _ => depth

/-- Read the words of a tag up to its end.  Within brackets the closing pair is
a pair of words. -/
def TagContent.read (closing : Char) (depth line : Nat) : List Char → TagContent
  | [] => broken .malformed line
  | c :: cs =>
      if isCodeBlank c then TagContent.read closing depth
        (passLines line [c]) cs
      else
        match (if depth = 0 then readClosing? closing (c :: cs) else none) with
        | some (trimAfter, rest) => ⟨[], trimAfter, rest⟩
        | none =>
            let (token, rest) := Token.read line (c :: cs)
            match token with
            | .unreadable failure => broken failure line
            | token =>
                if _h : rest.length < (c :: cs).length then
                  let passed := (c :: cs).take ((c :: cs).length - rest.length)
                  let content :=
                    TagContent.read closing (token.nesting depth)
                      (passLines line passed) rest
                  { content with lexemes := ⟨token, line⟩ :: content.lexemes }
                else broken .malformed line
termination_by cs => cs.length
decreasing_by
  · simp
  · exact _h

example : Token.readNumeral ['1', '.', 'x'] = (.integer 1, ['.', 'x']) := by
  decide +kernel
example : Token.unescape? 9 ['\\', 'x', '4', '1', '\\', '6', '0', '\\', 'q'] =
    some ['A', '0', '\\', 'q'] := by decide +kernel
example : (TagContent.read '\x7d' 0 1 "\x7b\x7d\x7d\x7dx".toList).rest =
    ['x'] := by decide +kernel
example : (TagContent.read '\x7d' 0 1 " a.b \x7d\x7dx".toList).lexemes =
    [⟨.name "a", 1⟩, ⟨.symbol ".", 1⟩, ⟨.name "b", 1⟩] := by decide +kernel

end Stencil.Template

/-
Writing JSON text, on one line or indented.  Strings escape quotes, the
backslash and control characters; a number that is not finite is written as
`null`.
-/
import Stencil.Json.Value
import Stencil.Number.Layout

namespace Stencil.Json

/-- A hexadecimal digit in lower case. -/
def hexChar (n : Nat) : Char :=
  if n < 10 then Char.ofNat (48 + n) else Char.ofNat (87 + n)

/-- A character inside a string literal. -/
def escapeChar (c : Char) : List Char :=
  if c = '"' then ['\\', '"']
  else if c = '\\' then ['\\', '\\']
  else if c = '\x08' then ['\\', 'b']
  else if c = '\x0C' then ['\\', 'f']
  else if c = '\n' then ['\\', 'n']
  else if c = '\r' then ['\\', 'r']
  else if c = '\t' then ['\\', 't']
  else if c.toNat < 32 then
    ['\\', 'u', '0', '0', hexChar (c.toNat / 16), hexChar (c.toNat % 16)]
  else [c]

/-- A string literal. -/
def quote (s : String) : List Char :=
  '"' :: s.toList.flatMap escapeChar ++ ['"']

/-- A number, or `null` for one that JSON cannot express. -/
def numberText (x : Double) : List Char :=
  if x.isFinite then (x.text .json).toList else "null".toList

/-- Values without inner structure. -/
def scalarText : Json → List Char
  | null => "null".toList
  | bool b => (if b then "true" else "false").toList
  | integer n => (toString n).toList
  | number x => numberText x
  | string s => quote s
  | array _ => []
  | object _ => []

mutual

/-- The text on one line, without spaces. -/
def compactChars : Json → List Char
  | array items => '[' :: compactItems items ++ [']']
  | object fields => '{' :: compactFields fields ++ ['}']
  | value => scalarText value

def compactItems : List Json → List Char
  | [] => []
  | [item] => compactChars item
  | item :: rest => compactChars item ++ ',' :: compactItems rest

def compactFields : List (String × Json) → List Char
  | [] => []
  | [(name, value)] => quote name ++ ':' :: compactChars value
  | (name, value) :: rest =>
      quote name ++ ':' :: compactChars value ++ ',' :: compactFields rest

end

/-- The text on one line. -/
def compact (value : Json) : String :=
  String.ofList (compactChars value)

/-- A line break and the indentation of a level. -/
def newLine (level : Nat) : List Char :=
  '\n' :: List.replicate (2 * level) ' '

mutual

/-- The text with every item and field on a line of its own, indented by two
spaces a level.  Empty containers stay on one line. -/
def indentedChars (level : Nat) : Json → List Char
  | array [] => ['[', ']']
  | array (item :: rest) =>
      '[' :: newLine (level + 1) ++ indentedChars (level + 1) item ++
        indentedItems (level + 1) rest ++ newLine level ++ [']']
  | object [] => ['{', '}']
  | object ((name, value) :: rest) =>
      '{' :: newLine (level + 1) ++ quote name ++
        ':' :: ' ' :: indentedChars (level + 1) value ++
        indentedFields (level + 1) rest ++ newLine level ++ ['}']
  | value => scalarText value

def indentedItems (level : Nat) : List Json → List Char
  | [] => []
  | item :: rest =>
      ',' :: newLine level ++ indentedChars level item ++
        indentedItems level rest

def indentedFields (level : Nat) : List (String × Json) → List Char
  | [] => []
  | (name, value) :: rest =>
      ',' :: newLine level ++ quote name ++
        ':' :: ' ' :: indentedChars level value ++ indentedFields level rest

end

/-- The text over several lines. -/
def indented (value : Json) : String :=
  String.ofList (indentedChars 0 value)

example : (array [integer 1, string "a\"b", object []]).compact =
    "[1,\"a\\\"b\",\x7b\x7d]" := by
  decide +kernel

end Stencil.Json

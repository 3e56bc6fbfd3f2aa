/-
Conversion of raw inputs to declared types.  Strict conversion stops at the
first value that its type does not admit; lenient conversion puts a stand-in
in its place.
-/
import Stencil.Input.TypedValue
import Stencil.Schema.Variable
import Stencil.Time.Reader

namespace Stencil

/-- A value that the type of its variable does not admit. -/
inductive CoercionError where
  | invalidInteger (name value : String)
  | invalidNumber (name value : String)
  | invalidDatetime (name value : String)
deriving DecidableEq, Repr

namespace CoercionError

def message : CoercionError → String
  | invalidInteger name value =>
      String.join ["invalid integer for '", name, "': ", value]
  | invalidNumber name value =>
      String.join ["invalid number for '", name, "': ", value]
  | invalidDatetime name value =>
      String.join ["invalid datetime for '", name, "': ", value]

/-- What lenient conversion puts in place of the value; `now` is the reading of
the local clock. -/
def standIn (now : DateTime) : CoercionError → TypedValue
  | invalidInteger _ _ => .integer 0
  | invalidNumber _ _ => .number (.zero false)
  | invalidDatetime _ _ => .datetime (.naive now)

end CoercionError

/-- How conversion treats values that are not admitted. -/
inductive CoercionMode where
  | lenient
  | strict
deriving DecidableEq, Repr, Inhabited

/-- The word for a mode. -/
def CoercionMode.word : CoercionMode → String
  | lenient => "lenient"
  | strict => "strict"

def CoercionMode.ofWord? : String → Option CoercionMode
  | "lenient" => some lenient
  | "strict" => some strict
  | _ => none

namespace Json

/-- A value as text: strings as they are, other values as words or JSON
text. -/
def displayText : Json → String
  | string s => s
  | null => "None"
  | bool b => if b then "True" else "False"
  | value => value.compact

/-- The integer that a value denotes.  Numbers lose their fraction. -/
def toInteger? : Json → Option Int
  | string s => Numeral.readInt64? (Text.trimBlanks s.toList)
  | integer n =>
      if Numeral.inInt64 n then some n
      else (Double.ofInt n).truncate?.filter Numeral.inInt64
  | number x => x.truncate?.filter Numeral.inInt64
  | bool b => some (if b then 1 else 0)
  | _ => none

/-- The number that a value denotes. -/
def toNumber? : Json → Option Double
  | string s => Numeral.readDouble? (Text.trimBlanks s.toList)
  | bool b => some (Double.ofInt (if b then 1 else 0))
  | value => value.toDouble?

def toMoment? : Json → Option Moment
  | string s => Moment.ofText? s
  | _ => none

/-- Only `true`, the words `true` and `True`, and one count as true. -/
def isTruthy : Json → Bool
  | bool b => b
  | string s => s = "true" ∨ s = "True" ∨ s = "1"
  | value =>
      match value.toDouble? with
      | some x => x.same (.ofInt 1)
      | none => false

/-- The items of a text: its lines without blank ones if it has line breaks,
and otherwise all pieces between commas. -/
def itemsOfText (s : String) : List String :=
  if s.toList.contains '\n' then
    ((Text.splitString '\n' s).map Text.trim).filter (· ≠ "")
  else (Text.splitString ',' s).map Text.trim

/-- The items that a value denotes. -/
def toItems : Json → List Json
  | array items => items
  | string s => (itemsOfText s).map string
  | value => [string value.displayText]

end Json

namespace Variable

/-- Convert a raw value to the type of a variable. -/
def coerce (v : Variable) (value : Json) : Except CoercionError TypedValue :=
  match v.type with
  | .integer =>
      match value.toInteger? with
      | some n => .ok (.integer n)
      | none => .error (.invalidInteger v.name value.displayText)
  | .number =>
      match value.toNumber? with
      | some x => .ok (.number x)
      | none => .error (.invalidNumber v.name value.displayText)
  | .datetime =>
      match value.toMoment? with
      | some m => .ok (.datetime m)
      | none => .error (.invalidDatetime v.name value.displayText)
  | .boolean => .ok (.boolean value.isTruthy)
  | .array => .ok (.array value.toItems)
  | .string => .ok (.string value.displayText)
  | .select => .ok (.string value.displayText)
  | .other _ => .ok (.string value.displayText)

/-- The default as it stands, whatever the type. -/
def defaultValue? (v : Variable) : Option TypedValue :=
  v.effectiveDefault.map TypedValue.string

/-- The value that lenient conversion gives a variable, if any. -/
def lenientValue? (now : DateTime) (raw : RawInputs) (v : Variable) :
    Option TypedValue :=
  match raw.get? v.name with
  | some value =>
      match v.coerce value with
      | .ok typed => some typed
      | .error e => some (e.standIn now)
  | none => v.defaultValue?

/-- The value that strict conversion gives a variable, if any. -/
def strictValue? (raw : RawInputs) (v : Variable) :
    Except CoercionError (Option TypedValue) :=
  match raw.get? v.name with
  | some value => (v.coerce value).map some
  | none => .ok v.defaultValue?

end Variable

namespace Schema

/-- Store a value under a name, if there is one. -/
def store (inputs : Inputs) (name : String) : Option TypedValue → Inputs
  | some typed => Entries.insert name typed inputs
  | none => inputs

/-- Convert without failing.  A later declaration of a name overwrites an
earlier one. -/
def coerceLenient (now : DateTime) (schema : Schema) (raw : RawInputs) :
    Inputs :=
  schema.foldl (fun inputs v => store inputs v.name (v.lenientValue? now raw))
    []

/-- Convert up to the first value that is not admitted. -/
def coerceStrict (schema : Schema) (raw : RawInputs) :
    Except CoercionError Inputs :=
  schema.foldlM (fun inputs v => (v.strictValue? raw).map (store inputs v.name))
    []

/-- Convert in a given mode. -/
def coerce (now : DateTime) (mode : CoercionMode) (schema : Schema)
    (raw : RawInputs) : Except CoercionError Inputs :=
  match mode with
  | .lenient => .ok (schema.coerceLenient now raw)
  | .strict => schema.coerceStrict raw

end Schema

example : Json.itemsOfText "a, b,," = ["a", "b", "", ""] := by decide +kernel
example : Json.itemsOfText "a,\n\n b" = ["a,", "b"] := by decide +kernel

end Stencil

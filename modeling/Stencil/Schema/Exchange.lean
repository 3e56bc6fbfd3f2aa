/-
Schemas as JSON.  A variable is written as an object with all ten fields in a
fixed order; it is read from an object, whose unknown fields are ignored, or
from an array of exactly ten items.
-/
import Stencil.Json.Reader
import Stencil.Json.Writer
import Stencil.Schema.Variable

namespace Stencil

namespace Bound

def toJson : Bound → Json
  | integer n => .integer n
  | float x => if x.isFinite then .number x else .null

/-- An integer of 64 bits, or else the double nearest to a number. -/
def ofJson? : Json → Option Bound
  | .integer n =>
      some (if Numeral.inInt64 n then integer n else float (Double.ofInt n))
  | .number x => some (float x)
  | _ => none

end Bound

namespace Variable

/-- The names of the fields in the order in which they are written. -/
def fieldNames : List String :=
  ["name", "type", "label", "required", "options", "min", "max", "default",
    "placeholder", "description"]

def toJson (v : Variable) : Json :=
  let text (s : Option String) : Json := (s.map Json.string).getD .null
  .object [
    ("name", .string v.name),
    ("type", .string v.type.token),
    ("label", .string v.label),
    ("required", .bool v.required),
    ("options", .array (v.options.map Json.string)),
    ("min", (v.min.map Bound.toJson).getD .null),
    ("max", (v.max.map Bound.toJson).getD .null),
    ("default", text v.default),
    ("placeholder", text v.placeholder),
    ("description", text v.description)]

def text? : Json → Option String
  | .string s => some s
  | _ => none

def flag? : Json → Option Bool
  | .bool b => some b
  | _ => none

def texts? : Json → Option (List String)
  | .array items => items.mapM text?
  | _ => none

/-- A field that may be `null`. -/
def optional? (read : Json → Option α) : Json → Option (Option α)
  | .null => some none
  | value => (read value).map some

/-- A variable from the values of its ten fields.  The last five may be
missing. -/
def ofFields? (field : String → Option Json) : Option Variable := do
  let optionalField {α : Type} (read : Json → Option α) (name : String) :
      Option (Option α) :=
    match field name with
    | none => some none
    | some value => optional? read value
  some {
    name := ← field "name" >>= text?
    type := VarType.ofToken (← field "type" >>= text?)
    label := ← field "label" >>= text?
    required := ← field "required" >>= flag?
    options := ← field "options" >>= texts?
    min := ← optionalField Bound.ofJson? "min"
    max := ← optionalField Bound.ofJson? "max"
    default := ← optionalField text? "default"
    placeholder := ← optionalField text? "placeholder"
    description := ← optionalField text? "description" }

/-- Read a variable.  A known field may not be repeated. -/
def ofJson? : Json → Option Variable
  | .object fields =>
      let known := fields.filter fun field => fieldNames.contains field.1
      if (known.map Prod.fst).eraseDups.length < known.length then none
      else ofFields? fun name => known.lookup name
  | .array items =>
      if items.length = fieldNames.length then
        ofFields? fun name => (fieldNames.zip items).lookup name
      else none
  | _ => none

end Variable

namespace Schema

def toJson (schema : Schema) : Json :=
  .array (schema.map Variable.toJson)

/-- Read a schema: an array of variables. -/
def ofText? (text : String) : Option Schema :=
  match Json.ofTextAsWritten? text with
  | some (.array items) => items.mapM Variable.ofJson?
  | _ => none

end Schema

end Stencil

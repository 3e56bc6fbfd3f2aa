/-
Values of declared types, and their JSON form.
-/
import Stencil.Json.Writer
import Stencil.Time.Text

namespace Stencil

/-- A value converted to the type of its variable. -/
inductive TypedValue where
  | string (value : String)
  | integer (value : Int)
  | number (value : Double)
  | boolean (value : Bool)
  | datetime (value : Moment)
  | array (items : List Json)
deriving Repr, Inhabited, BEq

/-- Raw inputs by variable name. -/
abbrev RawInputs := Entries Json

/-- Converted inputs by variable name. -/
abbrev Inputs := Entries TypedValue

namespace TypedValue

/-- Timestamps are written as their text and numbers that JSON cannot express
as `null`. -/
def toJson : TypedValue → Json
  | string s => .string s
  | integer n => .integer n
  | number x => if x.isFinite then .number x else .null
  | boolean b => .bool b
  | datetime m => .string m.text
  | array items => .array items

/-- The text of a string. -/
def text? : TypedValue → Option String
  | string s => some s
  | _ => none

end TypedValue

/-- The JSON object of inputs. -/
def Inputs.toJson (inputs : Inputs) : Json :=
  .object (inputs.map fun input => (input.1, input.2.toJson))

end Stencil

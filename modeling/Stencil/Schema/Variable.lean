/-
The variables that a template declares.  A declared type is kept as it was
written when it is not one of the known ones, and bounds are advice to a form:
nothing enforces them.
-/
import Stencil.Number.Layout
import Stencil.Number.Numeral

namespace Stencil

/-- The declared type of a variable. -/
inductive VarType where
  | string
  | integer
  | number
  | boolean
  | datetime
  | array
  | select
  | other (token : String)
deriving DecidableEq, Repr, Inhabited

namespace VarType

/-- The type that a token names. -/
def ofToken (token : String) : VarType :=
  match token with
  | "string" => string
  | "integer" => integer
  | "number" => number
  | "boolean" => boolean
  | "datetime" => datetime
  | "array" => array
  | "select" => select
  | _ => other token

/-- The token that names a type. -/
def token : VarType → String
  | string => "string"
  | integer => "integer"
  | number => "number"
  | boolean => "boolean"
  | datetime => "datetime"
  | array => "array"
  | select => "select"
  | other token => token

theorem token_ofToken (t : String) : (ofToken t).token = t := by
  unfold ofToken
  split <;> simp_all [token]

end VarType

/-- A numeric limit of a variable. -/
inductive Bound where
  | integer (value : Int)
  | float (value : Double)
deriving DecidableEq, Repr

namespace Bound

/-- Read a limit: digits that fit 64 bits are an integer, any other numeral is
a double. -/
def ofLiteral? (literal : String) : Option Bound :=
  let cs := literal.toList
  if Numeral.isDigits cs && Numeral.inInt64 (Numeral.digitsValue cs) then
    some (integer (Numeral.digitsValue cs))
  else (Numeral.readDouble? cs).map float

/-- The text of a limit. -/
def text : Bound → String
  | integer n => toString n
  | float x => x.text .plain

end Bound

/-- One declared variable. -/
structure Variable where
  name : String
  type : VarType := .string
  label : String := name
  required : Bool := false
  options : List String := []
  min : Option Bound := none
  max : Option Bound := none
  default : Option String := none
  placeholder : Option String := none
  description : Option String := none
deriving DecidableEq, Repr

/-- The variables of a template in the order of their declarations.  A name may
be declared more than once. -/
abbrev Schema := List Variable

/-- The default, unless it is the empty text. -/
def Variable.effectiveDefault (v : Variable) : Option String :=
  v.default.filter (· ≠ "")

end Stencil

/-
Tests: what a name after `is` asks of a value.
-/
import Stencil.Template.Arguments
import Stencil.Text.Case

namespace Stencil.Template

namespace Test

open Value

/-- A test without arguments. -/
def plain (p : Value → Bool) (value : Value) (passed : Passed) :
    Outcome Bool := do
  passed.atMost 0
  .ok (p value)

/-- A test against another value. -/
def against (p : Value → Value → Bool) (value : Value) (passed : Passed) :
    Outcome Bool := do
  let other ← passed.required 0
  passed.atMost 1
  .ok (p value other)

def isOdd (value : Value) : Bool :=
  match value.toInteger? with
  | some n => n % 2 != 0
  | none => false

def isEven (value : Value) : Bool :=
  match value.toInteger? with
  | some n => n % 2 == 0
  | none => false

def isDivisible (value other : Value) : Bool :=
  match exactPair? value other with
  | some (.integers m n) => n != 0 && m % n == 0
  | some (.floats x y) => (x.rem y).isZero
  | none => false

/-- A test of the characters of a text. -/
def ofCase (p : Char → Bool) (value : Value) (passed : Passed) :
    Outcome Bool := do
  let cs ← value.mustBeText
  passed.atMost 0
  .ok (cs.all p)

/-- A test of a text against another. -/
def ofTexts (p : List Char → List Char → Bool) (value : Value)
    (passed : Passed) : Outcome Bool := do
  let cs ← value.asText
  let other ← passed.text 0
  passed.atMost 1
  .ok (p cs other)

/-- The test of a name. -/
def ofName? (name : String) : Option (Value → Passed → Outcome Bool) :=
  match name with
  | "defined" => some (plain fun v => !v.isUndefined)
  | "undefined" => some (plain isUndefined)
  | "none" => some (plain fun v => v.kind == .none)
  | "string" => some (plain fun v => v.kind == .string)
  | "number" => some (plain fun v => v.kind == .number)
  | "integer" =>
      some (plain fun v => match v with | integer _ => true | _ => false)
  | "float" => some (plain fun v => match v with | float _ => true | _ => false)
  | "sequence" => some (plain fun v => v.kind == .sequence)
  | "mapping" => some (plain fun v => v.kind == .map)
  | "iterable" => some (plain fun v => v.items?.isSome)
  | "boolean" => some (plain fun v => v.kind == .bool)
  | "true" => some (plain fun v => match v with | .bool b => b | _ => false)
  | "false" => some (plain fun v => match v with | .bool b => !b | _ => false)
  | "odd" => some (plain isOdd)
  | "even" => some (plain isEven)
  | "divisibleby" => some (against isDivisible)
  | "safe" =>
      some (plain fun v => match v with | string _ safe => safe | _ => false)
  | "escaped" =>
      some (plain fun v => match v with | string _ safe => safe | _ => false)
  | "lower" => some (ofCase fun c => Text.isCased c && Text.lowerChar c == [c])
  | "upper" => some (ofCase fun c => Text.isCased c && Text.lowerChar c != [c])
  | "startingwith" => some (ofTexts fun cs ds => ds.isPrefixOf cs)
  | "endingwith" => some (ofTexts fun cs ds => ds.isSuffixOf cs)
  | "eq" => some (against same)
  | "equalto" => some (against same)
  | "==" => some (against same)
  | "ne" => some (against fun v w => !same v w)
  | "lt" => some (against fun v w => order v w == .lt)
  | "lessthan" => some (against fun v w => order v w == .lt)
  | "le" => some (against fun v w => order v w != .gt)
  | "gt" => some (against fun v w => order v w == .gt)
  | "greaterthan" => some (against fun v w => order v w == .gt)
  | "ge" => some (against fun v w => order v w != .lt)
  | "in" => some fun value p => do
      let container ← p.required 0
      p.atMost 1
      match container with
      | undefined false => .error .undefinedValue
      | container => .ok ((Value.contains container value).toOption.getD false)
  | _ => none

/-- Apply the test of a name. -/
def apply (name : String) (value : Value) (p : Passed) : Outcome Bool :=
  match ofName? name with
  | some test => test value p
  | none => .error (.unknownTest name)

end Test

end Stencil.Template

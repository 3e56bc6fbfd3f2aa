/-
Arguments of filters, tests and functions: what a value must be to count as a
text or number, and reading the values one after the other.  Values passed by
name stand together, as one map, after those passed by place.
-/
import Stencil.Number.Numeral
import Stencil.Template.Operator

namespace Stencil.Template

namespace Value

/-- A value taken as text.  An undefined value has none. -/
def asText (value : Value) : Outcome (List Char) :=
  match value with
  | undefined _ => .error .undefinedValue
  | value => .ok value.printed

/-- A value that must be a string. -/
def asString : Value → Outcome (List Char)
  | string cs _ => .ok cs
  | _ => invalid "value is not a string"

/-- A value that must be a string; an undefined value has none. -/
def mustBeText (value : Value) : Outcome (List Char) :=
  match value with
  | undefined _ => .error .undefinedValue
  | value => value.asString

/-- A value that must be an integer of a type. -/
def mustFit (type : IntegerType) (value : Value) : Outcome Int :=
  match value with
  | undefined _ => .error .undefinedValue
  | value => value.asInteger type

/-- A value that must be a truth value. -/
def mustBeBool (value : Value) : Outcome Bool :=
  match value with
  | undefined _ => .error .undefinedValue
  | bool b => .ok b
  | value => value.inconvertible "bool"

/-- The items of a value that a loop visits. -/
def asItems (value : Value) : Outcome (List Value) :=
  match value with
  | undefined false => .error .undefinedValue
  | value =>
      match value.items? with
      | some items => .ok items
      | none => invalid (value.kind.word ++ " is not iterable")

/-- The items of a value, where another failure is reported. -/
def asList (value : Value) : Outcome (List Value) :=
  match value.asItems with
  | .ok items => .ok items
  | .error _ => invalid "cannot convert value to list"

/-- The value at the end of a path of members and indices. -/
def follow (path : List (List Char)) (value : Value) : Value :=
  path.foldl (fun value part =>
    let key :=
      if Numeral.isDigits part then integer (Numeral.digitsValue part)
        else ofChars part
    match value with
    | dict entries => ofOption (valueUnder? (ofChars part) entries)
    | value => ofOption (value.item? key)) value

end Value

/-- The values passed by place and by name. -/
structure Passed where
  values : List Value
  named : List (String × Value)

namespace Passed

def none : Passed := ⟨[], []⟩

/-- The values passed by name as entries of a map. -/
def namedEntries (p : Passed) : List (Value × Value) :=
  p.named.map fun (name, value) => (.ofChars name.toList, value)

/-- Whether a place is that of the values passed by name. -/
def isNamed (p : Passed) (i : Nat) : Bool :=
  i == p.values.length && !p.named.isEmpty

/-- The value at a place. -/
def at? (p : Passed) (i : Nat) : Option Value :=
  if p.isNamed i then some (Value.ofEntries p.namedEntries) else p.values[i]?

/-- The value at a place that must be filled. -/
def required (p : Passed) (i : Nat) : Outcome Value :=
  match p.at? i with
  | some value => .ok value
  | Option.none => .error .missingArgument

/-- The value at a place, converted, unless there is nothing. -/
def optional {α : Type} (p : Passed) (i : Nat) (convert : Value → Outcome α) :
    Outcome (Option α) :=
  match p.at? i with
  | some (.undefined _) => .error .undefinedValue
  | some .nothing => .ok Option.none
  | some value => (convert value).map some
  | Option.none => .ok Option.none

/-- Values passed by name are no text. -/
def notNamed (p : Passed) (i : Nat) : Outcome Unit :=
  if p.isNamed i then Value.invalid "cannot convert kwargs to string"
    else .ok ()

/-- The text at a place that must be filled. -/
def text (p : Passed) (i : Nat) : Outcome (List Char) := do
  p.notNamed i
  (← p.required i).asText

/-- The text at a place, unless there is nothing. -/
def optionalText (p : Passed) (i : Nat) : Outcome (Option (List Char)) := do
  p.notNamed i
  p.optional i Value.asText

/-- No more values than a number. -/
def atMost (p : Passed) (count : Nat) : Outcome Unit :=
  if count < p.values.length + (if p.named.isEmpty then 0 else 1) then
    .error (.tooManyArguments Option.none)
  else .ok ()

/-- No values but by name. -/
def onlyNamed (p : Passed) : Outcome Unit :=
  if p.values.isEmpty then .ok () else .error (.tooManyArguments Option.none)

/-- Values by name only under some names. -/
def namesAmong (p : Passed) (names : List String) : Outcome Unit :=
  match p.named.find? fun entry => !names.contains entry.1 with
  | some entry =>
      .error (.tooManyArguments
        (some ("unknown keyword argument '" ++ entry.1 ++ "'")))
  | Option.none => .ok ()

/-- The value under a name, converted, unless there is nothing. -/
def under {α : Type} (p : Passed) (name : String)
    (convert : Value → Outcome α) : Outcome (Option α) :=
  match p.named.lookup name with
  | some (.undefined _) => .ok Option.none
  | some .nothing => .ok Option.none
  | some value => (convert value).map some
  | Option.none => .ok Option.none

/-- Whether a switch is on. -/
def switch (p : Passed) (name : String) : Outcome Bool := do
  .ok ((← p.under name Value.mustBeBool).getD false)

end Passed

end Stencil.Template

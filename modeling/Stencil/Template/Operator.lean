/-
Operators on values: arithmetic on integers of 128 bits and on doubles,
concatenation, comparison, membership and slices.
-/
import Stencil.Template.Fault
import Stencil.Template.Value
import Stencil.Text.Split

namespace Stencil.Template

/-- What a step on values yields. -/
abbrev Outcome := Except Fault

namespace Value

/-- A failure with a wording of its own. -/
def invalid {α : Type} (detail : String) : Outcome α :=
  .error (.invalidOperation (some detail))

/-- The value has no counterpart of a type. -/
def inconvertible {α : Type} (value : Value) (typeName : String) : Outcome α :=
  invalid (String.join ["cannot convert ", value.kind.word, " to ", typeName])

/-- A type of integers that a place asks for. -/
structure IntegerType where
  name : String
  contains : Int → Bool

/-- Integers of 64 bits. -/
def int64 : IntegerType := ⟨"i64", Numeral.inInt64⟩

/-- Integers of 32 bits. -/
def int32 : IntegerType :=
  ⟨"i32", fun
    | .ofNat n => n < 2147483648
    | .negSucc n => n < 2147483648⟩

/-- The value as an integer of a type. -/
def asInteger (type : IntegerType) (value : Value) : Outcome Int :=
  match value.toInteger?.filter type.contains with
  | some n => .ok n
  | none => value.inconvertible type.name

/-- The symbol of an operator. -/
def symbolOf : BinaryOperator → String
  | .add => "+"
  | .subtract => "-"
  | .multiply => "*"
  | .divide => "/"
  | .divideWhole => "//"
  | .remainder => "%"
  | .power => "**"
  | .concatenate => "~"
  | .equal => "=="
  | .notEqual => "!="
  | .less => "<"
  | .lessOrEqual => "<="
  | .greater => ">"
  | .greaterOrEqual => ">="
  | .contains => "in"

/-- The operator has no result for these values. -/
def incalculable (operator : BinaryOperator) (a b : Value) : Outcome Value :=
  invalid ("unable to calculate " ++ String.ofList a.printed ++ " " ++
    symbolOf operator ++ " " ++ String.ofList b.printed)

/-- The operator does not apply to values of these kinds. -/
def inapplicable (operator : BinaryOperator) (a b : Value) : Outcome Value :=
  invalid ("tried to use " ++ symbolOf operator ++
    " operator on unsupported types " ++ a.kind.word ++ " and " ++ b.kind.word)

/-- An integer result, if there is one within the limits. -/
def checked (operator : BinaryOperator) (a b : Value) (result : Option Int) :
    Outcome Value :=
  match result with
  | some n => if inInt128 n then .ok (integer n) else incalculable operator a b
  | none => incalculable operator a b

/-- A power, unless it is certainly too large. -/
def integerPower? (m n : Int) : Option Int :=
  if n < 0 ∨ 4294967296 ≤ n then none
  else if m.natAbs ≤ 1 then
    some (if n = 0 then 1 else if m = -1 ∧ n % 2 = 0 then 1 else m)
  else if 128 < n then none
  else some (Int.pow m n.toNat)

/-- The result of an operator on two integers. -/
def onIntegers? (operator : BinaryOperator) (m n : Int) : Option Int :=
  match operator with
  | .add => some (m + n)
  | .subtract => some (m - n)
  | .multiply => some (m * n)
  | .divideWhole => if n = 0 then none else some (m / n)
  | .remainder => if n = 0 then none else some (m % n)
  | .power => integerPower? m n
  | _ => none

/-- The result of an operator on two doubles. -/
def onFloats (operator : BinaryOperator) (x y : Double) : Double :=
  match operator with
  | .add => x.add y
  | .subtract => x.sub y
  | .multiply => x.mul y
  | .divideWhole => x.divEuclid y
  | .remainder => x.rem y
  | .power => x.pow y
  | _ => x.div y

/-- An operator on two numbers. -/
def onNumbers (operator : BinaryOperator) (a b : Value) : Outcome Value :=
  match pair? a b with
  | some (.integers m n) => checked operator a b (onIntegers? operator m n)
  | some (.floats x y) => .ok (float (onFloats operator x y))
  | none => inapplicable operator a b

/-- The items of a list, however they are produced, and whether their number is
known. -/
def listItems? : Value → Option (List Value × Bool)
  | sequence items => some (items, true)
  | iterator items counted => some (items, counted)
  | _ => none

def add (a b : Value) : Outcome Value :=
  match a, b with
  | string cs _, string ds _ => .ok (ofChars (cs ++ ds))
  | a, b =>
      match listItems? a, listItems? b with
      | some (xs, countedA), some (ys, countedB) =>
          .ok (iterator (xs ++ ys) (countedA && countedB))
      | _, _ => onNumbers .add a b

/-- How often a text or list is to be repeated. -/
def repetitions? (value : Value) : Option Nat :=
  match value.toInteger? with
  | some n => if 0 ≤ n then some n.toNat else none
  | none => none

/-- A text repeated. -/
def repeatText (cs : List Char) (count : Value) : Outcome Value :=
  match count.repetitions? with
  | some n => .ok (ofChars (List.replicate n cs).flatten)
  | none => invalid "strings can only be multiplied with integers"

/-- A list of known length repeated. -/
def repeatItems (items : List Value) (counted : Bool) (count : Value) :
    Outcome Value :=
  match count.repetitions? with
  | some n =>
      if counted then .ok (iterator (List.replicate n items).flatten true)
      else invalid "cannot repeat unsized iterables"
  | none =>
      invalid "sequences and iterables can only be multiplied with integers"

def multiply (a b : Value) : Outcome Value :=
  match a.chars?, b.chars? with
  | some cs, _ => repeatText cs b
  | none, some ds => repeatText ds a
  | none, none =>
      match listItems? a, listItems? b with
      | some (items, counted), _ => repeatItems items counted b
      | none, some (items, counted) =>
          if a.kind = .map ∨ a.kind = .plainObject then
            inapplicable .multiply a b
          else repeatItems items counted a
      | none, none => onNumbers .multiply a b

/-- Division always yields a double. -/
def divide (a b : Value) : Outcome Value :=
  match a.toDouble?, b.toDouble? with
  | some x, some y => .ok (float (x.div y))
  | _, _ => inapplicable .divide a b

/-- Whether a piece stands in a text. -/
def occurs (piece cs : List Char) : Bool :=
  (Text.splitAtFirst? piece cs).isSome

/-- Whether a container holds a value: a text a piece, a list an item, a map a
key. -/
def contains (container value : Value) : Outcome Bool :=
  match container with
  | undefined _ => .ok false
  | string cs _ => .ok (occurs value.printed cs)
  | sequence items => .ok (items.any fun item => same item value)
  | iterator items _ => .ok (items.any fun item => same item value)
  | dict entries => .ok (valueUnder? value entries).isSome
  | container =>
      if container.kind = .plainObject then .ok false
      else invalid "cannot perform a containment check on this value"

/-- The result of an operator. -/
def apply (operator : BinaryOperator) (a b : Value) : Outcome Value :=
  match operator with
  | .add => add a b
  | .multiply => multiply a b
  | .divide => divide a b
  | .concatenate => .ok (ofChars (a.printed ++ b.printed))
  | .equal => .ok (bool (same a b))
  | .notEqual => .ok (bool !(same a b))
  | .less => .ok (bool (order a b == .lt))
  | .lessOrEqual => .ok (bool (order a b != .gt))
  | .greater => .ok (bool (order a b == .gt))
  | .greaterOrEqual => .ok (bool (order a b != .lt))
  | .contains =>
      -- Membership in nothing is an error, in a silent nothing it is false.
      match b with
      | undefined false => .error .undefinedValue
      | b => (contains b a).map bool
  | operator => onNumbers operator a b

/-- The opposite number.  Half the number of integers is its own opposite. -/
def negate : Value → Outcome Value
  | float x => .ok (float x.neg)
  | integer n =>
      if n = .ofNat int128Half then .ok (integer n)
      else if !inInt128 n then .error (.invalidOperation none)
      else if inInt128 (-n) then .ok (integer (-n))
      else invalid "overflow"
  | _ => .error (.invalidOperation none)

/-- Every `step`th item, beginning with the first. -/
def everyNth {α : Type} (step : Nat) : Nat → List α → List α
  | _, [] => []
  | 0, x :: xs => x :: everyNth step (step - 1) xs
  | wait + 1, _ :: xs => everyNth step wait xs

/-- A place that may count from the end, held within a list of a length. -/
def clampPlace (length : Nat) (i : Int) : Nat :=
  if 0 ≤ i then i.toNat else (length + i).toNat

/-- The items from `start` to `stop` at a distance of `step`; a negative
distance walks backwards.  On the way forwards bounds count from the end of a
length that is known in advance. -/
def sliceItems {α : Type} (start stop : Option Int) (step : Int) (known : Nat)
    (items : List α) : List α :=
  let length := items.length
  if 0 < step then
    let first := clampPlace known (start.getD 0)
    let last := clampPlace known (stop.getD known)
    everyNth step.toNat 0 ((items.drop first).take (last - first))
  else
    let first :=
      match start with
      | none => length - 1
      | some i => min (clampPlace length i) (length - 1)
    let walked := (items.take (first + 1)).reverse
    let kept :=
      match stop with
      | none => walked.length
      | some i => first - clampPlace length i
    everyNth step.natAbs 0 (walked.take kept)

/-- A bound of a slice: an integer or nothing. -/
def sliceBound : Value → Outcome (Option Int)
  | nothing => .ok none
  | value => (value.asInteger int64).map some

/-- A part of a text or list. -/
def slice (subject start stop step : Value) : Outcome Value := do
  if subject.isUndefined then .error .undefinedValue
  else
    let start ← sliceBound start
    let stop ← sliceBound stop
    let step := (← sliceBound step).getD 1
    if step = 0 then invalid "cannot slice by step size of 0"
    else
      match subject with
      | string cs _ => .ok (ofChars (sliceItems start stop step cs.length cs))
      | nothing => .ok (sequence [])
      | sequence items =>
          .ok (iterator (sliceItems start stop step items.length items) true)
      | iterator items counted =>
          let known := if counted then items.length else 0
          .ok (iterator (sliceItems start stop step known items)
            (counted || step < 0))
      | subject =>
          invalid ("value of type " ++ subject.kind.word ++ " cannot be sliced")

example : sliceItems (some 1) none 1 3 [1, 2, 3] = [2, 3] := by decide
example : sliceItems none (some (-1)) 1 3 [1, 2, 3] = [1, 2] := by decide
example : sliceItems none none (-1) 3 [1, 2, 3] = [3, 2, 1] := by decide

end Value

end Stencil.Template

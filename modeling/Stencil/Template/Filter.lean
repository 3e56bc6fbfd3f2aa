/-
Filters: what a name after a bar does to a value.
-/
import Stencil.Template.Arguments
import Stencil.Text.Case

namespace Stencil.Template

namespace Filter

open Value

/-- A filter on text that takes no arguments. -/
def onText (f : List Char → List Char) (value : Value) (p : Passed) :
    Outcome Value := do
  let cs ← value.asText
  p.atMost 0
  .ok (ofChars (f cs))

/-- Another value in place of an undefined one, or of any that is not true. -/
def default (value : Value) (p : Passed) : Outcome Value := do
  let other ← p.optional 0 .ok
  let anyFalse ← p.optional 1 mustBeBool
  p.atMost 2
  let isReplaced := value.isUndefined || (anyFalse.getD false && !value.isTrue)
  .ok (if isReplaced then other.getD (ofChars []) else value)

/-- Join texts; a separator is put wherever there is text before it. -/
def joinTexts (separator : List Char) (texts : List (List Char)) : List Char :=
  texts.foldl (fun joined text =>
    (if joined.isEmpty then [] else joined ++ separator) ++ text) []

def join (value : Value) (p : Passed) : Outcome Value := do
  let separator := (← p.optionalText 0).getD []
  p.atMost 1
  match value with
  | undefined _ => .ok (ofChars [])
  | nothing => .ok (ofChars [])
  | value =>
      match value.items? with
      | some items => .ok (ofChars (joinTexts separator (items.map printed)))
      | none => invalid ("cannot join value of type " ++ value.kind.word)

def length (value : Value) (p : Passed) : Outcome Value := do
  p.atMost 0
  match value.length? with
  | some n => .ok (integer n)
  | none =>
      invalid ("cannot calculate length of value of type " ++ value.kind.word)

/-- Remove white space, or some characters, from both ends. -/
def trim (value : Value) (p : Passed) : Outcome Value := do
  let cs ← value.asText
  let set ← p.optionalText 0
  p.atMost 1
  let isTrimmed (c : Char) : Bool :=
    match set with
    | some set => set.contains c
    | none => Text.isBlank c
  .ok (ofChars (Text.trimWhere isTrimmed cs))

def first (value : Value) (p : Passed) : Outcome Value := do
  p.atMost 0
  match value with
  | undefined _ => invalid "cannot get first item from value"
  | nothing => invalid "cannot get first item from value"
  | value =>
      match value.items? with
      | some items => .ok (ofOption items.head?)
      | none => invalid "cannot get first item from value"

def last (value : Value) (p : Passed) : Outcome Value := do
  p.atMost 0
  match value with
  | string cs _ => .ok (ofOption (cs.getLast?.map fun c => ofChars [c]))
  | .sequence items => .ok (ofOption items.getLast?)
  | iterator items _ => .ok (ofOption items.getLast?)
  | _ => invalid "cannot get last item from value"

def reverse (value : Value) (p : Passed) : Outcome Value := do
  p.atMost 0
  match value with
  | undefined silent => .ok (undefined silent)
  | nothing => .ok nothing
  | string cs _ => .ok (ofChars cs.reverse)
  | .sequence items => .ok (iterator items.reverse true)
  | iterator items _ => .ok (iterator items.reverse true)
  | dict entries => .ok (iterator (entries.map Prod.fst).reverse true)
  | value => invalid ("cannot reverse values of type " ++ value.kind.word)

/-- Text with a piece put before, between and after all characters. -/
def interleave (piece : List Char) : List Char → List Char
  | [] => piece
  | c :: cs => piece ++ c :: interleave piece cs

def replace (value : Value) (p : Passed) : Outcome Value := do
  let cs ← value.asText
  let piece ← p.text 0
  let target ← p.text 1
  p.atMost 2
  .ok (ofChars
    (if piece.isEmpty then interleave target cs
      else Text.replaceAll piece target cs))

/-- A power of ten as a double. -/
def powerOfTen (n : Int) : Double :=
  if 0 ≤ n then Double.ofDecimal false 1 n
  else (Double.ofInt 1).div (Double.ofDecimal false 1 (-n))

def round (value : Value) (p : Passed) : Outcome Value := do
  let places ← p.optional 0 (mustFit int32)
  p.atMost 1
  match value with
  | integer n => .ok (integer n)
  | float x =>
      let scale := powerOfTen (places.getD 0)
      .ok (float ((scale.mul x).roundAway.div scale))
  | value => invalid ("cannot round value (" ++ value.kind.word ++ ")")

def abs (value : Value) (p : Passed) : Outcome Value := do
  p.atMost 0
  match value with
  | integer n =>
      if 0 ≤ n ∨ inInt128 n.natAbs then .ok (integer n.natAbs)
        else invalid "overflow on abs"
  | float x => .ok (float x.abs)
  | _ => invalid "cannot get absolute value"

/-- The whole part of a double, held within the limits of integers. -/
def wholePart (x : Double) : Int :=
  match x with
  | .nan => 0
  | .infinite negative => limit negative
  | x =>
      let n := x.truncate?.getD 0
      if inInt128 n then n else limit (n < 0)
where
  /-- The least or the largest integer of 128 bits. -/
  limit (negative : Bool) : Int :=
    if negative then .negSucc (int128Half - 1) else .ofNat (int128Half - 1)

/-- Why a text is not a number. -/
def notANumber {α : Type} (cs : List Char) : Outcome α :=
  invalid (if cs.isEmpty then "cannot parse float from empty string"
    else "invalid float literal")

def int (value : Value) (p : Passed) : Outcome Value := do
  p.atMost 0
  match value with
  | undefined _ => .ok (integer 0)
  | nothing => .ok (integer 0)
  | .bool b => .ok (integer (if b then 1 else 0))
  | integer n => .ok (integer n)
  | float x => .ok (integer (wholePart x))
  | string cs _ =>
      match (Numeral.readInt? cs).filter inInt128 with
      | some n => .ok (integer n)
      | none =>
          match Numeral.readDouble? cs with
          | some x => .ok (integer (wholePart x))
          | none => notANumber cs
  | value => invalid ("cannot convert " ++ value.kind.word ++ " to integer")

def toFloat (value : Value) (p : Passed) : Outcome Value := do
  p.atMost 0
  match value with
  | undefined _ => .ok (float (.zero false))
  | nothing => .ok (float (.zero false))
  | string cs _ =>
      match Numeral.readDouble? cs with
      | some x => .ok (float x)
      | none => notANumber cs
  | value =>
      match value.toDouble? with
      | some x => .ok (float x)
      | none => invalid ("cannot convert " ++ value.kind.word ++ " to float")

def toText (value : Value) (p : Passed) : Outcome Value := do
  p.atMost 0
  match value with
  | string cs safe => .ok (string cs safe)
  | value => .ok (ofChars value.printed)

/-- A character with its meaning in markup taken away. -/
def escapeChar (c : Char) : List Char :=
  match c with
  | '<' => "&lt;".toList
  | '>' => "&gt;".toList
  | '&' => "&amp;".toList
  | '"' => "&quot;".toList
  | '\'' => "&#x27;".toList
  | '/' => "&#x2f;".toList
  | c => [c]

def escape (value : Value) (p : Passed) : Outcome Value := do
  p.atMost 0
  match value with
  | string cs true => .ok (string cs true)
  | value => .ok (string (value.printed.flatMap escapeChar) true)

def safe (value : Value) (p : Passed) : Outcome Value := do
  let cs ← value.asText
  p.atMost 0
  .ok (string cs true)

/-- The words of a text: its pieces between white space. -/
def words (cs : List Char) : List (List Char) :=
  (cs.splitBy fun a b => Text.isBlank a == Text.isBlank b).filter fun piece =>
    !piece.all Text.isBlank

/-- At most `count + 1` pieces between characters of a kind. -/
def splitWhere (p : Char → Bool) : Nat → List Char → List (List Char)
  | _, [] => [[]]
  | 0, cs => [cs]
  | count + 1, c :: cs =>
      if p c then [] :: splitWhere p count cs
      else
        match splitWhere p (count + 1) cs with
        | piece :: pieces => (c :: piece) :: pieces
        | [] => [[c]]

/-- At most `count + 1` pieces between occurrences of a text. -/
def splitAtText (separator : List Char) : Nat → List Char → List (List Char)
  | 0, cs => [cs]
  | count + 1, cs =>
      match Text.splitAtFirst? separator cs with
      | some (before, rest) => before :: splitAtText separator count rest
      | none => [cs]

/-- The pieces that an empty separator leaves: the characters, with nothing
before the first and after the last. -/
def splitEverywhere (count : Nat) (cs : List Char) : List (List Char) :=
  if count = 0 then [cs]
  else
    let single := cs.take (count - 1)
    [] :: single.map (fun c => [c]) ++ [cs.drop (count - 1)]

def split (value : Value) (p : Passed) : Outcome Value := do
  let cs ← value.asText
  let separator ← p.optionalText 0
  let limit ← p.optional 1 (mustFit int64)
  p.atMost 2
  let limit := (limit.filter (0 ≤ ·)).map Int.toNat
  let pieces :=
    match separator, limit with
    | none, none => words cs
    | none, some count => splitWhere Text.isBlank count cs
    | some [], limit => splitEverywhere (limit.getD (cs.length + 1)) cs
    | some separator, limit => splitAtText separator (limit.getD cs.length) cs
  .ok (iterator (pieces.map ofChars) false)

def sum (value : Value) (p : Passed) : Outcome Value := do
  p.atMost 0
  let items ← value.asItems
  items.foldlM (fun total item =>
    match item with
    | undefined _ => .ok total
    | item =>
        if item.kind = .number then add total item
        else invalid ("can only sum numbers, got " ++ item.kind.word))
          (integer 0)

/-- The first of the smallest items. -/
def minimum (value : Value) (p : Passed) : Outcome Value := do
  p.atMost 0
  match ← value.asList with
  | [] => .ok (undefined false)
  | item :: rest =>
      .ok (rest.foldl (fun best item =>
        if order item best == .lt then item else best) item)

/-- The last of the greatest items. -/
def maximum (value : Value) (p : Passed) : Outcome Value := do
  p.atMost 0
  match ← value.asList with
  | [] => .ok (undefined false)
  | item :: rest =>
      .ok (rest.foldl (fun best item =>
        if order item best == .lt then best else item) item)

/-- What an item is compared by: itself, or the end of a path. -/
def keyOf (path : Option (List Char)) (item : Value) : Value :=
  match path with
  | some path => follow (path.splitOn '.') item
  | none => item

/-- The order for sorting: texts without regard to the case of ASCII letters,
unless it matters. -/
def sortOrder (caseMatters : Bool) (a b : Value) : Ordering :=
  match a, b with
  | string cs _, string ds _ =>
      if caseMatters then compareChars cs ds
      else compareChars (cs.map Char.toLower) (ds.map Char.toLower)
  | a, b => order a b

/-- Items sorted by a key, equal ones in their order. -/
def sortBy (caseMatters reversed : Bool) (key : Value → Value)
    (items : List Value) : List Value :=
  let sorted := items.mergeSort fun a b =>
    sortOrder caseMatters (key a) (key b) != .gt
  if reversed then sorted.reverse else sorted

def sort (value : Value) (p : Passed) : Outcome Value := do
  p.onlyNamed
  let items ← value.asList
  let caseMatters ← p.switch "case_sensitive"
  let path ← p.under "attribute" mustBeText
  let reversed ← p.switch "reverse"
  p.namesAmong ["case_sensitive", "attribute", "reverse"]
  .ok (sequence (sortBy caseMatters reversed (keyOf path) items))

/-- What counts as the same item: texts without regard to case, unless it
matters. -/
def foldCase (caseMatters : Bool) : Value → Value
  | string cs _ => ofChars (if caseMatters then cs else Text.lower cs)
  | value => value

def unique (value : Value) (p : Passed) : Outcome Value := do
  p.onlyNamed
  let path ← p.under "attribute" mustBeText
  let caseMatters ← p.switch "case_sensitive"
  p.namesAmong ["case_sensitive", "attribute"]
  let items ← value.asItems
  let (kept, _) := items.foldl (fun (state : List Value × List Value) item =>
    let key := foldCase caseMatters (keyOf path item)
    if state.2.any fun other => order key other == .eq then state
    else (item :: state.1, key :: state.2)) ([], [])
  .ok (sequence kept.reverse)

def list (value : Value) (p : Passed) : Outcome Value := do
  p.atMost 0
  let items ← value.asList
  .ok (sequence items)

/-- The entries of a map as pairs. -/
def pairsOf (value : Value) : Outcome (List Value) :=
  match value with
  | dict entries => .ok (entries.map fun (key, value) => .sequence [key, value])
  | _ => invalid "cannot convert value into pair list"

def items (value : Value) (p : Passed) : Outcome Value := do
  p.atMost 0
  .ok (.sequence (← pairsOf value))

/-- The place in a pair that entries are sorted by: the key's, unless it is to
be the value's. -/
def sortPlace (wish : Option (List Char)) : Value :=
  integer (if wish = some ['v', 'a', 'l', 'u', 'e'] then 1 else 0)

def sortedItems (value : Value) (p : Passed) : Outcome Value := do
  p.onlyNamed
  let pairs ← pairsOf value
  let place := sortPlace (← p.under "by" mustBeText)
  let caseMatters ← p.switch "case_sensitive"
  let reversed ← p.switch "reverse"
  p.namesAmong ["by", "case_sensitive", "reverse"]
  .ok (.sequence
    (sortBy caseMatters reversed (fun pair =>
      ofOption (pair.item? place)) pairs))

/-- The filter of a name. -/
def ofName? (name : String) : Option (Value → Passed → Outcome Value) :=
  match name with
  | "default" => some default
  | "d" => some default
  | "join" => some join
  | "length" => some length
  | "count" => some length
  | "upper" => some (onText Text.upper)
  | "lower" => some (onText Text.lower)
  | "title" => some (onText Text.title)
  | "capitalize" => some (onText Text.capitalize)
  | "trim" => some trim
  | "first" => some first
  | "last" => some last
  | "reverse" => some reverse
  | "replace" => some replace
  | "round" => some round
  | "abs" => some abs
  | "int" => some int
  | "float" => some toFloat
  | "string" => some toText
  | "bool" => some fun value p => do
      p.atMost 0
      .ok (Value.bool value.isTrue)
  | "escape" => some escape
  | "e" => some escape
  | "safe" => some safe
  | "split" => some split
  | "sum" => some sum
  | "min" => some minimum
  | "max" => some maximum
  | "sort" => some sort
  | "unique" => some unique
  | "list" => some list
  | "items" => some items
  | "dictsort" => some sortedItems
  | _ => none

/-- Apply the filter of a name. -/
def apply (name : String) (value : Value) (p : Passed) : Outcome Value :=
  match ofName? name with
  | some filter => filter value p
  | none => .error (.unknownFilter name)

example : joinTexts [','] [['a'], [], ['b']] = "a,,b".toList := by
  decide +kernel
example : words " a  bc ".toList = [['a'], ['b', 'c']] := by decide +kernel

end Filter

end Stencil.Template

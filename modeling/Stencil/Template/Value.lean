/-
The values of templates: their kinds, texts, order, items and members.
-/
import Stencil.Number.Layout
import Stencil.Number.Numeral
import Stencil.Template.Expression
import Stencil.Text.Quoted
import Stencil.Time.Text

namespace Stencil.Template

/-- The kinds of values, in the order in which values of different kinds
compare. -/
inductive ValueKind where
  | undefined
  | none
  | bool
  | number
  | string
  | sequence
  | map
  | iterator
  | plainObject
deriving DecidableEq, Repr

namespace ValueKind

/-- The place of a kind in their order. -/
def rank : ValueKind → Nat
  | undefined => 0
  | none => 1
  | bool => 2
  | number => 3
  | string => 4
  | sequence => 5
  | map => 6
  | iterator => 7
  | plainObject => 8

def word : ValueKind → String
  | undefined => "undefined"
  | none => "none"
  | bool => "bool"
  | number => "number"
  | string => "string"
  | sequence => "sequence"
  | map => "map"
  | iterator => "iterator"
  | plainObject => "plain object"

end ValueKind

inductive Value where
  /-- No value.  A silent one may be printed and tested. -/
  | undefined (silent : Bool)
  | nothing
  | bool (value : Bool)
  | integer (value : Int)
  | float (value : Double)
  /-- A text, marked if its special characters are escaped already. -/
  | string (text : List Char) (safe : Bool)
  | sequence (items : List Value)
  /-- Items that are produced one by one; their number may not be known in
  advance. -/
  | iterator (items : List Value) (counted : Bool)
  | dict (entries : List (Value × Value))
  | datetime (value : Moment)
  /-- The state of a loop: index from zero, number of items if known, and the
  neighbouring items. -/
  | loopState (index : Nat) (count : Option Nat) (previous next : Option Value)
  /-- A routine with the place where the names it sees are kept. -/
  | routine (value : Routine) (closure : Nat)
  | builtin (name : String)

instance : Inhabited Value := ⟨.nothing⟩

namespace Value

def kind : Value → ValueKind
  | undefined _ => .undefined
  | nothing => .none
  | bool _ => .bool
  | integer _ => .number
  | float _ => .number
  | string _ _ => .string
  | sequence _ => .sequence
  | iterator _ _ => .iterator
  | dict _ => .map
  | datetime _ => .plainObject
  | loopState _ _ _ _ => .plainObject
  | routine _ _ => .plainObject
  | builtin _ => .plainObject

def isUndefined : Value → Bool
  | undefined _ => true
  | _ => false

/-- A text without a mark. -/
def ofChars (cs : List Char) : Value :=
  string cs false

/-- The text of a string. -/
def chars? : Value → Option (List Char)
  | string cs _ => some cs
  | _ => none

/-- The word for an undefined value. -/
def undefinedText : List Char := ['u', 'n', 'd', 'e', 'f', 'i', 'n', 'e', 'd']

/-- The words for truth values. -/
def boolText (b : Bool) : List Char :=
  (if b then "True" else "False").toList

/-- The text of a value without inner structure. -/
def scalarText (layout : NumberLayout) : Value → List Char
  | nothing => "None".toList
  | bool b => boolText b
  | integer n => (toString n).toList
  | float x => (x.text layout).toList
  | datetime m => m.text.toList
  | loopState index count _ _ =>
      let length :=
        match count with
        | some n => toString n
        | none => "?"
      (String.join ["<loop ", toString index, "/", length, ">"]).toList
  | routine r _ => (String.join ["<macro ", r.name, ">"]).toList
  | builtin name => (String.join ["<function ", name, ">"]).toList
  | _ => []

mutual

/-- The text of a value inside a list or map. -/
def shown : Value → List Char
  | undefined _ => undefinedText
  | string cs _ => Text.shown cs
  | sequence items => '[' :: shownItems items ++ [']']
  | iterator items _ => '[' :: shownItems items ++ [']']
  | dict entries => '\x7b' :: shownEntries entries ++ ['\x7d']
  | value => scalarText .nested value

def shownItems : List Value → List Char
  | [] => []
  | [item] => shown item
  | item :: rest => shown item ++ ',' :: ' ' :: shownItems rest

def shownEntries : List (Value × Value) → List Char
  | [] => []
  | [(key, value)] => shown key ++ ':' :: ' ' :: shown value
  | (key, value) :: rest =>
      shown key ++ ':' :: ' ' :: shown value ++ ',' :: ' ' :: shownEntries rest

end

/-- The text of a value as a template prints it. -/
def printed : Value → List Char
  | undefined _ => []
  | string cs _ => cs
  | sequence items => shown (sequence items)
  | iterator items counted => shown (iterator items counted)
  | dict entries => shown (dict entries)
  | value => scalarText .printed value

/-- Whether a value counts as true. -/
def isTrue : Value → Bool
  | undefined _ => false
  | nothing => false
  | bool b => b
  | integer n => n != 0
  | float x => !x.isZero
  | string cs _ => !cs.isEmpty
  | sequence items => !items.isEmpty
  | iterator items counted => !(counted && items.isEmpty)
  | dict entries => !entries.isEmpty
  | _ => true

/-- The items that a loop over a value visits. -/
def items? : Value → Option (List Value)
  | undefined _ => some []
  | nothing => some []
  | string cs _ => some (cs.map fun c => ofChars [c])
  | sequence items => some items
  | iterator items _ => some items
  | dict entries => some (entries.map Prod.fst)
  | _ => none

/-- The number of items, if it is known in advance. -/
def length? : Value → Option Nat
  | string cs _ => some cs.length
  | sequence items => some items.length
  | iterator items counted => if counted then some items.length else none
  | dict entries => some entries.length
  | _ => none

/-- Half the number of integers of 128 bits, the 127th power of two. -/
def int128Half : Nat := 170141183460469231731687303715884105728

/-- Whether an integer has 128 bits, as those that are calculated with. -/
def inInt128 : Int → Bool
  | .ofNat n => n < int128Half
  | .negSucc n => n < int128Half

/-- The integer that a value counts as in calculations. -/
def toInteger? : Value → Option Int
  | integer n => if inInt128 n then some n else none
  | bool b => some (if b then 1 else 0)
  | float x =>
      match x.truncate? with
      | some n =>
          if Numeral.inInt64 n && x.same (.ofInt n) then some n else none
      | none => none
  | _ => none

/-- The number that a value counts as in calculations. -/
def toDouble? : Value → Option Double
  | integer n => some (.ofInt n)
  | bool b => some (.ofInt (if b then 1 else 0))
  | float x => some x
  | _ => none

/-- The number that a value counts as, if it is a double exactly. -/
def toExactDouble? (value : Value) : Option Double :=
  value.toDouble?.filter fun x =>
    match value with
    | integer n => x.truncate? == some n
    | _ => true

/-- Two numbers of one kind. -/
inductive NumberPair where
  | integers (a b : Int)
  | floats (a b : Double)

/-- Bring two values to one kind of number: floats if one of them is a
float. -/
def pairBy? (toFloat? : Value → Option Double) (a b : Value) :
    Option NumberPair :=
  match a, b with
  | float x, b => (toFloat? b).map (.floats x)
  | a, float y => (toFloat? a).map (.floats · y)
  | a, b =>
      match a.toInteger?, b.toInteger? with
      | some m, some n => some (.integers m n)
      | _, _ => none

/-- Two numbers to calculate with. -/
def pair? : Value → Value → Option NumberPair :=
  pairBy? toDouble?

/-- Two numbers to tell apart. -/
def exactPair? : Value → Value → Option NumberPair :=
  pairBy? toExactDouble?

/-- The order of texts by code points. -/
def compareChars : List Char → List Char → Ordering
  | [], [] => .eq
  | [], _ :: _ => .lt
  | _ :: _, [] => .gt
  | c :: cs, d :: ds =>
      if c.toNat < d.toNat then .lt
      else if d.toNat < c.toNat then .gt
      else compareChars cs ds

/-- The order of values without inner structure: numbers by value, others by
kind and then by text. -/
def compareScalars (a b : Value) : Ordering :=
  match a, b with
  | string cs _, string ds _ => compareChars cs ds
  | a, b =>
      match pair? a b with
      | some (.integers m n) => compare m n
      | some (.floats x y) => x.totalCompare y
      | none =>
          match compare a.kind.rank b.kind.rank with
          | .eq => compareChars a.printed b.printed
          | order => order

mutual

/-- The order of values. -/
def order : Value → Value → Ordering
  | sequence xs, sequence ys => orderItems xs ys
  | iterator xs _, iterator ys _ => orderItems xs ys
  | dict xs, dict ys => orderEntries xs ys
  | a, b => compareScalars a b

def orderItems : List Value → List Value → Ordering
  | [], [] => .eq
  | [], _ :: _ => .lt
  | _ :: _, [] => .gt
  | x :: xs, y :: ys => (order x y).then (orderItems xs ys)

def orderEntries : List (Value × Value) → List (Value × Value) → Ordering
  | [], [] => .eq
  | [], _ :: _ => .lt
  | _ :: _, [] => .gt
  | (k, x) :: xs, (l, y) :: ys =>
      (order k l).then ((order x y).then (orderEntries xs ys))

end

/-- Equality of values without inner structure. -/
def sameScalars (a b : Value) : Bool :=
  match a, b with
  | nothing, nothing => true
  | undefined _, undefined _ => true
  | string cs _, string ds _ => cs == ds
  | integer m, integer n => m == n
  | a, b =>
      match exactPair? a b with
      | some (.integers m n) => m == n
      | some (.floats x y) => x.same y
      | none =>
          a.kind == .plainObject && b.kind == .plainObject &&
            a.printed == b.printed

mutual

/-- Equality of values.  How items are produced does not matter. -/
def same : Value → Value → Bool
  | sequence xs, b =>
      match b with
      | sequence ys => sameItems xs ys
      | iterator ys _ => sameItems xs ys
      | _ => false
  | iterator xs _, b =>
      match b with
      | sequence ys => sameItems xs ys
      | iterator ys _ => sameItems xs ys
      | _ => false
  | dict xs, dict ys => sameEntries xs ys
  | a, b => sameScalars a b

def sameItems : List Value → List Value → Bool
  | [], [] => true
  | x :: xs, y :: ys => same x y && sameItems xs ys
  | _, _ => false

def sameEntries : List (Value × Value) → List (Value × Value) → Bool
  | [], [] => true
  | (k, x) :: xs, (l, y) :: ys => same k l && same x y && sameEntries xs ys
  | _, _ => false

end

/-- Store an entry in a map that is sorted by keys, over an earlier one. -/
def insertEntry (key value : Value) :
    List (Value × Value) → List (Value × Value)
  | [] => [(key, value)]
  | (k, v) :: rest =>
      match order key k with
      | .eq => (k, value) :: rest
      | .lt => (key, value) :: (k, v) :: rest
      | .gt => (k, v) :: insertEntry key value rest

/-- The map of some entries, the last one of a key kept. -/
def ofEntries (entries : List (Value × Value)) : Value :=
  dict (entries.foldl (fun m entry => insertEntry entry.1 entry.2 m) [])

/-- The value under a key. -/
def valueUnder? (key : Value) (entries : List (Value × Value)) : Option Value :=
  (entries.find? fun entry => order key entry.1 == .eq).map Prod.snd

/-- A field of a timestamp, read off its wall clock. -/
def datetimeField? (m : Moment) (name : String) : Option Value :=
  let wall := m.wallClock
  match name with
  | "year" => some (integer wall.date.year)
  | "month" => some (integer wall.date.month)
  | "day" => some (integer wall.date.day)
  | "hour" => some (integer wall.clock.hour)
  | "minute" => some (integer wall.clock.minute)
  | "second" => some (integer wall.clock.second)
  | "microsecond" => some (integer (wall.clock.nanos / 1000 : Nat))
  | _ => none

/-- A value that may be missing. -/
def ofOption : Option Value → Value
  | some value => value
  | none => undefined false

/-- A field of the state of a loop. -/
def loopField? (index : Nat) (count : Option Nat) (previous next : Option Value)
    (name : String) : Option Value :=
  let natural (n : Nat) : Value := integer n
  match name with
  | "index0" => some (natural index)
  | "index" => some (natural (index + 1))
  | "length" => some (ofOption (count.map natural))
  | "revindex" => some (ofOption (count.map fun n => natural (n - index)))
  | "revindex0" => some (ofOption (count.map fun n => natural (n - index - 1)))
  | "first" => some (bool (index == 0))
  | "last" => some (bool next.isNone)
  | "depth" => some (natural 1)
  | "depth0" => some (natural 0)
  | "previtem" => some (ofOption previous)
  | "nextitem" => some (ofOption next)
  | _ => none

/-- The value of a member, if the value has it. -/
def member? (value : Value) (name : String) : Option Value :=
  match value with
  | dict entries => valueUnder? (ofChars name.toList) entries
  | datetime m => datetimeField? m name
  | loopState index count previous next =>
      loopField? index count previous next name
  | routine r _ =>
      match name with
      | "name" => some (ofChars r.name.toList)
      | "arguments" =>
          some (sequence (r.parameters.map fun p => ofChars p.name.toList))
      | "caller" => some (bool false)
      | _ => none
  | _ => none

/-- An index as a place in a list.  It counts from the end if it is negative and
the length is known. -/
def placeOf? (length : Option Nat) (key : Value) : Option Nat := do
  let i ← key.toInteger?
  if 0 ≤ i then some i.toNat
  else
    let length ← length
    if -i ≤ length then some (length + i).toNat else none

/-- The value of an item, if the value has it. -/
def item? (value key : Value) : Option Value :=
  match value with
  | dict entries => valueUnder? key entries
  | string cs _ => (placeOf? value.length? key).bind fun i =>
      cs[i]?.map fun c => ofChars [c]
  | sequence items => (placeOf? value.length? key).bind fun i => items[i]?
  | iterator items _ => (placeOf? value.length? key).bind fun i => items[i]?
  | value => key.chars?.bind fun name => value.member? (String.ofList name)

example : printed (sequence [string ['a'] false, float (.ofInt 2), nothing]) =
    "[\"a\", 2.0, None]".toList := by decide +kernel

end Value

end Stencil.Template

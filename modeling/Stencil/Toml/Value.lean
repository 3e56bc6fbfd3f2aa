/-
Values of a settings file and the tables that its lines build up.  A table
remembers how it came to be, because that decides which later lines may still
add to it: a header may name a table once, a dotted key may not reach into a
table that has a header of its own, and nothing may be added to a value.
-/
import Stencil.Number.Double

namespace Stencil

/-- How a table came to be. -/
inductive TableOrigin where
  | header
  | parentOfHeader
  | dottedKey
  | inline
deriving DecidableEq, Repr

/-- A list of tables made by headers keeps the table that is still open apart
from the earlier ones. -/
inductive Toml where
  | string (value : String)
  | integer (value : Int)
  | float (value : Double)
  | boolean (value : Bool)
  | moment (text : String)
  | array (items : List Toml)
  | table (origin : TableOrigin) (fields : List (String × Toml))
  | tables (earlier : List (List (String × Toml))) (last : List (String × Toml))
deriving Repr

namespace Toml

/-- The content of a table. -/
abbrev Fields := List (String × Toml)

/-- Change the field of a name, or add it at the end. -/
def alter? (key : String) (change : Option Toml → Option Toml) :
    Fields → Option Fields
  | [] => (change none).map fun value => [(key, value)]
  | (k, value) :: rest =>
      if k = key then (change (some value)).map fun value => (k, value) :: rest
      else (alter? key change rest).map fun rest => (k, value) :: rest

/-- Put a value under a dotted key.  Tables on the way are made as needed; the
table that receives the value must have been made by dotted keys, unless it is
the one where the key begins. -/
def insert? (value : Toml) (receives : Bool) :
    List String → Fields → Option Fields
  | [], _ => none
  | [key], fields =>
      fields |> alter? key fun
        | none => if receives then some value else none
        | some _ => none
  | key :: path, fields =>
      fields |> alter? key fun
        | none => (insert? value true path []).map (table .dottedKey)
        | some (table .dottedKey inner) =>
            (insert? value true path inner).map (table .dottedKey)
        | some (table .parentOfHeader inner) =>
            (insert? value false path inner).map (table .parentOfHeader)
        | some (tables earlier last) =>
            (insert? value false path last).map (tables earlier)
        | some _ => none

/-- Change the table that the words of a header lead to. -/
def within? (change : Fields → Option Fields) :
    List String → Fields → Option Fields
  | [], fields => change fields
  | key :: path, fields =>
      fields |> alter? key fun
        | none => (within? change path []).map (table .parentOfHeader)
        | some (table .inline _) => none
        | some (table origin inner) =>
            (within? change path inner).map (table origin)
        | some (tables earlier last) =>
            (within? change path last).map (tables earlier)
        | some _ => none

/-- Begin the table of a header. -/
def openTable? (key : String) : Fields → Option Fields :=
  alter? key fun
    | none => some (table .header [])
    | some (table .parentOfHeader inner) => some (table .header inner)
    | some _ => none

/-- Begin the next table of a list of tables. -/
def openItem? (key : String) : Fields → Option Fields :=
  alter? key fun
    | none => some (tables [] [])
    | some (tables earlier last) => some (tables (earlier ++ [last]) [])
    | some _ => none

/-- The items of a list of values or of tables. -/
def items? : Toml → Option (List Toml)
  | array items => some items
  | tables earlier last => some ((earlier ++ [last]).map (table .header))
  | _ => none

/-- The value of a name. -/
def get? (key : String) (fields : Fields) : Option Toml :=
  fields.lookup key

end Toml

end Stencil

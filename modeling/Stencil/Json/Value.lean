/-
JSON values.  A number is an integer when it was written as one and fits 64
bits, and a double otherwise.  An object keeps its fields in the order in which
they were written until it is put into canonical form: sorted by name, the
last field of a name kept.
-/
import Stencil.Entries
import Stencil.Number.Double

namespace Stencil

inductive Json where
  | null
  | bool (value : Bool)
  | integer (value : Int)
  | number (value : Double)
  | string (value : String)
  | array (items : List Json)
  | object (fields : List (String × Json))
deriving Repr, Inhabited, BEq

namespace Json

mutual

/-- Sort the fields of every object, keeping the last one of each name. -/
def canonical : Json → Json
  | array items => array (canonicalItems items)
  | object fields => object (canonicalFields fields)
  | value => value

def canonicalItems : List Json → List Json
  | [] => []
  | item :: rest => canonical item :: canonicalItems rest

/-- The later fields are stored first, so an earlier field of the same name is
dropped. -/
def canonicalFields : List (String × Json) → Entries Json
  | [] => []
  | (name, value) :: rest =>
      let fields := canonicalFields rest
      if Entries.contains name fields then fields
      else Entries.insert name (canonical value) fields

end

/-- The double nearest to a number. -/
def toDouble? : Json → Option Double
  | integer n => some (Double.ofInt n)
  | number x => some x
  | _ => none

end Json

end Stencil

/-
How a number is written.  A layout says which magnitudes are written without
an exponent and how the rest looks; the digits are the shortest that read
back.
-/
import Stencil.Number.Shortest

namespace Stencil

/-- The decisions of one way to write numbers. -/
structure NumberLayout where
  /-- Least and greatest decimal exponents written positionally; without them
  every number is. -/
  positional : Option (Int × Int)
  /-- Write `.0` after a whole number. -/
  markWhole : Bool
  /-- Write a plus sign before a positive exponent. -/
  markExponent : Bool
  /-- Send a tie between two shortest decimals up rather than to the even
  one. -/
  tieUp : Bool
deriving DecidableEq, Repr

namespace NumberLayout

/-- No exponent, no fraction on whole numbers. -/
def plain : NumberLayout := ⟨none, false, false, true⟩

/-- As it stands in JSON text. -/
def json : NumberLayout := ⟨some (-5, 15), true, true, false⟩

/-- As a template prints a number. -/
def printed : NumberLayout := ⟨none, true, false, true⟩

/-- As a template prints a number inside a list or map. -/
def nested : NumberLayout := ⟨some (-4, 15), true, false, true⟩

end NumberLayout

/-- Digits with a point, or with zeros on either side. -/
def positionalText (markWhole : Bool) (digits : List Char) (exponent : Int) :
    List Char :=
  if 0 ≤ exponent then
    digits ++ List.replicate exponent.toNat '0' ++
      (if markWhole then ['.', '0'] else [])
  else
    let places := (-exponent).toNat
    if places < digits.length then
      digits.take (digits.length - places) ++
        '.' :: digits.drop (digits.length - places)
    else '0' :: '.' :: List.replicate (places - digits.length) '0' ++ digits

/-- One digit, a point if more follow, and the exponent. -/
def exponentText (markExponent : Bool) (digits : List Char) (exponent : Int) :
    List Char :=
  let head := digits.take 1
  let tail := digits.drop 1
  head ++ (if tail.isEmpty then [] else '.' :: tail) ++ 'e' ::
    (if markExponent && 0 ≤ exponent then ['+'] else []) ++
      (toString exponent).toList

namespace Double

/-- The text of the absolute value of a finite number. -/
def magnitudeText (layout : NumberLayout) (m : Nat) (e : Int) : List Char :=
  if m = 0 then (if layout.markWhole then ['0', '.', '0'] else ['0'])
  else
    let shortest := Decimal.shortest layout.tieUp m e
    let digits := (toString shortest.digits).toList
    let scientific := shortest.exponent + digits.length - 1
    let positional :=
      match layout.positional with
      | none => true
      | some (least, greatest) => least ≤ scientific && scientific ≤ greatest
    if positional then positionalText layout.markWhole digits shortest.exponent
    else exponentText layout.markExponent digits scientific

/-- The text of a number. -/
def text (layout : NumberLayout) : Double → String
  | nan => "NaN"
  | infinite s => if s then "-inf" else "inf"
  | finite s m e =>
      String.ofList ((if s then ['-'] else []) ++ magnitudeText layout m e)

example : (ofDecimal false 25 (-1)).text .plain = "2.5" := by decide +kernel
example : (ofDecimal false 1 20).text .json = "1e+20" := by decide +kernel
example : (ofDecimal false 1 (-5)).text .json = "0.00001" := by decide +kernel
example : (ofDecimal false 1 (-5)).text .nested = "1e-5" := by decide +kernel
example : (ofDecimal true 0 0).text .printed = "-0.0" := by decide +kernel

end Double

end Stencil

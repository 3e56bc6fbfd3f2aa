/-
Numerals in text.  An integer numeral is an optional sign and ASCII digits; a
decimal numeral may also have a fraction and an exponent, and names infinity
and NaN in words.
-/
import Stencil.Number.Double

namespace Stencil.Numeral

/-- The number that a run of decimal digits denotes. -/
def digitsValue (cs : List Char) : Nat :=
  cs.foldl (fun n c => 10 * n + (c.toNat - 48)) 0

/-- Whether the text is a non-empty run of ASCII digits. -/
def isDigits (cs : List Char) : Bool :=
  !cs.isEmpty && cs.all Char.isDigit

/-- The value of a hexadecimal digit. -/
def hexDigit? (c : Char) : Option Nat :=
  if '0' ≤ c ∧ c ≤ '9' then some (c.toNat - 48)
  else if 'a' ≤ c ∧ c ≤ 'f' then some (c.toNat - 87)
  else if 'A' ≤ c ∧ c ≤ 'F' then some (c.toNat - 55)
  else none

/-- The number that a run of digits of a base denotes. -/
def valueInBase? (base : Nat) (cs : List Char) : Option Nat :=
  cs.foldlM (fun n c => ((hexDigit? c).filter (· < base)).map fun d =>
    base * n + d) 0

/-- A leading sign, and what follows it. -/
def takeSign : List Char → Bool × List Char
  | '-' :: cs => (true, cs)
  | '+' :: cs => (false, cs)
  | cs => (false, cs)

/-- Read an integer numeral: an optional sign and at least one digit. -/
def readInt? (cs : List Char) : Option Int :=
  let (negative, digits) := takeSign cs
  if isDigits digits then some (Double.signed negative (digitsValue digits))
    else none

/-- Half the number of integers of 64 bits, the 63rd power of two. -/
def int64Half : Nat := 9223372036854775808

/-- Whether an integer has 64 bits. -/
def inInt64 : Int → Bool
  | .ofNat n => n < int64Half
  | .negSucc n => n < int64Half

/-- Whether an integer has 64 bits, with or without a sign. -/
def inWord64 : Int → Bool
  | .ofNat n => n < 2 * int64Half
  | .negSucc n => n < int64Half

theorem inInt64_iff {z : Int} :
    inInt64 z = true ↔ -9223372036854775808 ≤ z ∧ z < 9223372036854775808 := by
  cases z with
  | ofNat n =>
      rw [inInt64, decide_eq_true_iff, int64Half, Int.ofNat_eq_natCast]
      omega
  | negSucc n =>
      rw [inInt64, decide_eq_true_iff, int64Half]
      omega

theorem inWord64_iff {z : Int} :
    inWord64 z = true ↔ -9223372036854775808 ≤ z ∧
      z < 18446744073709551616 := by
  cases z with
  | ofNat n =>
      rw [inWord64, decide_eq_true_iff, int64Half, Int.ofNat_eq_natCast]
      omega
  | negSucc n =>
      rw [inWord64, decide_eq_true_iff, int64Half]
      omega

/-- Read an integer numeral that denotes an integer of 64 bits. -/
def readInt64? (cs : List Char) : Option Int :=
  (readInt? cs).filter inInt64

/-- The exponent after the mark `e`, or zero if there is no mark. -/
def readExponent? : List Char → Option Int
  | [] => some 0
  | c :: cs =>
      if c = 'e' ∨ c = 'E' then readInt? cs else none

/-- Read digits with an optional fraction and exponent. -/
def readUnsigned? (negative : Bool) (cs : List Char) : Option Double :=
  let whole := cs.takeWhile Char.isDigit
  let afterWhole := cs.dropWhile Char.isDigit
  let (fraction, rest) :=
    match afterWhole with
    | '.' :: tail => (tail.takeWhile Char.isDigit, tail.dropWhile Char.isDigit)
    | _ => ([], afterWhole)
  if whole.isEmpty && fraction.isEmpty then none
  else
    (readExponent? rest).map fun e =>
      Double.ofDecimal negative (digitsValue (whole ++ fraction))
        (e - fraction.length)

/-- Read a decimal numeral. -/
def readDouble? (cs : List Char) : Option Double :=
  let (negative, body) := takeSign cs
  let word := String.ofList (body.map Char.toLower)
  if word = "inf" ∨ word = "infinity" then some (.infinite negative)
  else if word = "nan" then some .nan
  else readUnsigned? negative body

example : readInt? "-007".toList = some (-7) := by decide +kernel
example : readInt? "+".toList = none := by decide +kernel
example : readDouble? ".5".toList =
    some (.finite false Double.leadingBit (-53)) := by
  decide +kernel
example : readDouble? "1e".toList = none := by decide +kernel

end Stencil.Numeral

/-
Numbers of the binary64 format as exact values.  A finite number is a sign, a
significand and a power of two, so rounding, arithmetic and comparison are
integer arithmetic.  Every operation rounds once, to the nearest number of the
format, ties to the even significand.
-/

namespace Stencil

/-- A number of the binary64 format.  The finite ones are
`± significand · 2 ^ exponent`. -/
inductive Double where
  | nan
  | infinite (negative : Bool)
  | finite (negative : Bool) (significand : Nat) (exponent : Int)
deriving DecidableEq, Repr, Inhabited

namespace Double

/-- The exponent of the finest grid, that of the smallest positive number. -/
def minExponent : Int := -1074

/-- The exponent of the coarsest grid, that of the largest finite number. -/
def maxExponent : Int := 971

/-- The least significand of 53 bits, the 52nd power of two. -/
def leadingBit : Nat := 4503599627370496

/-- One above the largest significand. -/
def significandEnd : Nat := 2 * leadingBit

/-- The one spelling of each finite number: all 53 significant bits are used
unless the number lies on the finest grid. -/
def Canonical : Double → Prop
  | finite _ m e => m < significandEnd ∧ minExponent ≤ e ∧ e ≤ maxExponent ∧
      (leadingBit ≤ m ∨ e = minExponent)
  | _ => True

def zero (negative : Bool) : Double :=
  finite negative 0 minExponent

/-- The integer nearest to `num / den`, a tie going to the even one. -/
def roundHalfEven (num den : Nat) : Nat :=
  let q := num / den
  let twice := 2 * (num % den)
  if twice < den then q else if den < twice then q + 1 else q + q % 2

/-- `num / den` divided by a power of two, again as a fraction. -/
def scaleDown (num den : Nat) (e : Int) : Nat × Nat :=
  if 0 ≤ e then (num, den * Nat.pow 2 e.toNat)
    else (num * Nat.pow 2 (-e).toNat, den)

/-- The exponent of the highest power of two that is at most `num / den`. -/
def floorLog2 (num den : Nat) : Int :=
  let e : Int := (num.log2 : Int) - (den.log2 : Int)
  let (n, d) := scaleDown num den e
  if d ≤ n then e else e - 1

/-- A rounded significand with its exponent: one step of carry, then overflow
to infinity. -/
def assemble (negative : Bool) (m : Nat) (e : Int) : Double :=
  let (m, e) := if m = significandEnd then (leadingBit, e + 1) else (m, e)
  if maxExponent < e then infinite negative else finite negative m e

/-- The number nearest to the fraction `num / den`. -/
def ofRatio (negative : Bool) (num den : Nat) : Double :=
  if num = 0 then zero negative
  else
    let e := max minExponent (floorLog2 num den - 52)
    let (n, d) := scaleDown num den e
    assemble negative (roundHalfEven n d) e

/-- The number nearest to `m · 2 ^ e`. -/
def ofScaled (negative : Bool) (m : Nat) (e : Int) : Double :=
  if 0 ≤ e then ofRatio negative (m * Nat.pow 2 e.toNat) 1
  else ofRatio negative m (Nat.pow 2 (-e).toNat)

def ofInt (z : Int) : Double :=
  ofRatio (z < 0) z.natAbs 1

/-- The number nearest to `digits · 10 ^ e`.  Beyond `10 ^ 310` that is
infinity, and far enough below the finest grid it is zero, so no huge power is
formed. -/
def ofDecimal (negative : Bool) (digits : Nat) (e : Int) : Double :=
  if digits = 0 then zero negative
  else if 310 < e then infinite negative
  else if e < -(400 + (digits.log2 : Int)) then zero negative
  else if 0 ≤ e then ofRatio negative (digits * Nat.pow 10 e.toNat) 1
  else ofRatio negative digits (Nat.pow 10 (-e).toNat)

def isNegative : Double → Bool
  | nan => false
  | infinite s => s
  | finite s _ _ => s

def isFinite : Double → Bool
  | finite _ _ _ => true
  | _ => false

def isZero : Double → Bool
  | finite _ 0 _ => true
  | _ => false

def neg : Double → Double
  | nan => nan
  | infinite s => infinite !s
  | finite s m e => finite (!s) m e

def abs : Double → Double
  | nan => nan
  | infinite _ => infinite false
  | finite _ m e => finite false m e

/-- A natural number with a sign. -/
def signed (negative : Bool) (n : Nat) : Int :=
  if negative then -(n : Int) else (n : Int)

/-- The whole part of a finite number, toward zero. -/
def truncate? : Double → Option Int
  | finite s m e =>
      some (signed s
        (if 0 ≤ e then m * Nat.pow 2 e.toNat else m / Nat.pow 2 (-e).toNat))
  | _ => none

/-- Round toward zero, keeping the sign of a zero. -/
def trunc : Double → Double
  | finite s m e =>
      if 0 ≤ e then finite s m e else ofRatio s (m / Nat.pow 2 (-e).toNat) 1
  | x => x

/-- Round to the nearest whole number, a half going away from zero. -/
def roundAway : Double → Double
  | finite s m e =>
      if 0 ≤ e then finite s m e
      else
        let unit := Nat.pow 2 (-e).toNat
        ofRatio s ((2 * m + unit) / (2 * unit)) 1
  | x => x

/-- Two finite numbers on one grid: the exponent and the two integers. -/
def onGrid (s : Bool) (m : Nat) (e : Int) (t : Bool) (n : Nat) (f : Int) :
    Int × Int × Int :=
  let g := min e f
  (g, signed s (m * Nat.pow 2 (e - g).toNat),
    signed t (n * Nat.pow 2 (f - g).toNat))

def add : Double → Double → Double
  | nan, _ => nan
  | _, nan => nan
  | infinite s, infinite t => if s = t then infinite s else nan
  | infinite s, _ => infinite s
  | _, infinite t => infinite t
  | finite s m e, finite t n f =>
      if m = 0 ∧ n = 0 then zero (s && t)
      else
        let (g, a, b) := onGrid s m e t n f
        let c := a + b
        ofScaled (c < 0) c.natAbs g

def sub (x y : Double) : Double :=
  add x (neg y)

def mul : Double → Double → Double
  | nan, _ => nan
  | _, nan => nan
  | infinite s, infinite t => infinite (s != t)
  | infinite s, finite t n _ => if n = 0 then nan else infinite (s != t)
  | finite s m _, infinite t => if m = 0 then nan else infinite (s != t)
  | finite s m e, finite t n f => ofScaled (s != t) (m * n) (e + f)

def div : Double → Double → Double
  | nan, _ => nan
  | _, nan => nan
  | infinite _, infinite _ => nan
  | infinite s, finite t _ _ => infinite (s != t)
  | finite s _ _, infinite t => zero (s != t)
  | finite s m e, finite t n f =>
      if n = 0 then (if m = 0 then nan else infinite (s != t))
      else
        let (a, b) := scaleDown m n (f - e)
        ofRatio (s != t) a b

/-- The remainder of truncated division; it takes the sign of the dividend. -/
def rem : Double → Double → Double
  | nan, _ => nan
  | _, nan => nan
  | infinite _, _ => nan
  | x, infinite _ => x
  | finite s m e, finite t n f =>
      if n = 0 then nan
      else
        let (g, a, b) := onGrid s m e t n f
        ofScaled s (a.natAbs % b.natAbs) g

/-- The order of the values: `none` when a NaN is involved. -/
def compare? : Double → Double → Option Ordering
  | nan, _ => none
  | _, nan => none
  | infinite s, infinite t => some (compare t.toNat s.toNat)
  | infinite s, finite _ _ _ => some (if s then .lt else .gt)
  | finite _ _ _, infinite t => some (if t then .gt else .lt)
  | finite s m e, finite t n f =>
      let (_, a, b) := onGrid s m e t n f
      some (compare a b)

/-- Equality of values: NaN equals nothing and the two zeros are equal. -/
def same (x y : Double) : Bool :=
  compare? x y == some .eq

/-- The order of all numbers: the value decides, a negative zero precedes a
positive one, and NaN comes last. -/
def totalCompare (x y : Double) : Ordering :=
  match x, y with
  | nan, nan => .eq
  | nan, _ => .gt
  | _, nan => .lt
  | _, _ =>
      match compare? x y with
      | some .eq =>
          if x.isZero then compare y.isNegative.toNat x.isNegative.toNat
          else .eq
      | some order => order
      | none => .eq

/-- The quotient rounded so that the remainder is not negative. -/
def divEuclid (x y : Double) : Double :=
  let q := trunc (div x y)
  if compare? (rem x y) (zero false) == some .lt then
    if compare? y (zero false) == some .gt then sub q (ofInt 1)
    else add q (ofInt 1)
  else q

/-- The machine number of the same value. -/
def toFloat : Double → Float
  | nan => 0.0 / 0.0
  | infinite s => if s then -1.0 / 0.0 else 1.0 / 0.0
  | finite s m e =>
      let x := (Float.ofNat m).scaleB e
      if s then -x else x

/-- The exact value of a machine number. -/
def ofFloat (x : Float) : Double :=
  let bits : Nat := x.toBits.toNat
  let s := bits / (2048 * leadingBit) == 1
  let field : Nat := bits / leadingBit % 2048
  let fraction : Nat := bits % leadingBit
  if field = 2047 then (if fraction = 0 then infinite s else nan)
  else if field = 0 then finite s fraction minExponent
  else finite s (leadingBit + fraction) ((field : Int) - 1075)

def pow (x y : Double) : Double :=
  ofFloat (Float.pow x.toFloat y.toFloat)

example : ofDecimal false 1 0 = finite false leadingBit (-52) := by
  decide +kernel
example : ofDecimal false 5 (-324) = finite false 1 (-1074) := by decide +kernel
example : ofDecimal true 1 400 = infinite true := by decide +kernel
example : (ofDecimal true 25 (-1)).truncate? = some (-2) := by decide +kernel

end Double

end Stencil

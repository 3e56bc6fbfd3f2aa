/-
The shortest decimal of a number: the fewest digits that read back to it, and
of those the nearest.  A number is the only one of its format in an interval
around it.  The coarsest power-of-ten grid that has a point in that interval
gives the fewest digits, and one of the two neighbours of the number on that
grid is such a point.
-/
import Stencil.Number.Double

namespace Stencil

/-- The positive decimal `digits · 10 ^ exponent`. -/
structure Decimal where
  digits : Nat
  exponent : Int
deriving DecidableEq, Repr

namespace Decimal

/-- What reads back to `significand · 2 ^ exponent`, in quarters of a unit of
its last place.  The ends belong to the interval if `closed`. -/
structure Basin where
  low : Nat
  middle : Nat
  high : Nat
  closed : Bool

/-- The interval is narrower below a power of two, where the grid of the
format is twice as fine. -/
def basin (m : Nat) (e : Int) : Basin :=
  let below := if m = Double.leadingBit ∧ Double.minExponent < e then 1 else 2
  ⟨4 * m - below, 4 * m, 4 * m + 2, m % 2 == 0⟩

/-- The integer factors that bring a quarter unit `2 ^ (e - 2)` and a grid step
`10 ^ k` to one scale. -/
def commonScale (e k : Int) : Nat × Nat :=
  let q := e - 2
  let unitNum := Nat.pow 2 q.toNat
  let unitDen := Nat.pow 2 (-q).toNat
  let stepNum := Nat.pow 10 k.toNat
  let stepDen := Nat.pow 10 (-k).toNat
  (unitNum * stepDen, stepNum * unitDen)

/-- Whether the grid point `d` lies in the interval. -/
def Basin.admits (b : Basin) (unit step d : Nat) : Bool :=
  if b.closed then b.low * unit ≤ d * step && d * step ≤ b.high * unit
  else b.low * unit < d * step && d * step < b.high * unit

/-- The admitted neighbour of the number on the grid of step `10 ^ k`, the
nearer one if both are. -/
def neighbour? (tieUp : Bool) (m : Nat) (e k : Int) : Option Nat :=
  let b := basin m e
  let (unit, step) := commonScale e k
  let lower := b.middle * unit / step
  let upper := lower + 1
  match b.admits unit step lower, b.admits unit step upper with
  | true, true =>
      let down := b.middle * unit - lower * step
      let up := upper * step - b.middle * unit
      if down < up then some lower
      else if up < down then some upper
      else some (if tieUp || lower % 2 == 1 then upper else lower)
  | true, false => some lower
  | false, true => some upper
  | false, false => none

/-- Walk from a coarse grid to finer ones until one has an admitted point. -/
def search (tieUp : Bool) (m : Nat) (e : Int) : Nat → Int → Decimal
  | 0, k => ⟨0, k⟩
  | steps + 1, k =>
      match neighbour? tieUp m e k with
      | some d => ⟨d, k⟩
      | none => search tieUp m e steps (k - 1)

/-- A power of ten above `m · 2 ^ e`. -/
def coarsest (m : Nat) (e : Int) : Int :=
  ((m.log2 : Int) + 1 + e) * 30103 / 100000 + 1

/-- The shortest decimal of `m · 2 ^ e`, for a positive `m`. -/
def shortest (tieUp : Bool) (m : Nat) (e : Int) : Decimal :=
  search tieUp m e 24 (coarsest m e)

example : shortest true 1 (-1074) = ⟨5, -324⟩ := by decide +kernel
example : shortest true Double.leadingBit (-52) = ⟨1, 0⟩ := by decide +kernel

end Decimal

end Stencil

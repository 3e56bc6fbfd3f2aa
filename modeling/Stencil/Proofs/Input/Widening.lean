/-
From integers to numbers.  Whatever is read as an integer is read as a number
too, and up to the 53rd power of two that number is the integer.
-/
import Stencil.Proofs.Input.Integer

namespace Stencil

/-- A number whose whole part is a given integer. -/
def Double.HasWholePart (x : Double) (n : Int) : Prop :=
  ∃ q, x.value? = some q ∧ towardZero q = n

theorem Double.hasWholePart_ofRatio {negative : Bool} {m : Nat}
    (hm : m ≤ 2 ^ 53) :
    (Double.ofRatio negative m 1).HasWholePart
      (if negative then -(m : Int) else m) := by
  refine ⟨_, value?_ofRatio_whole negative hm, ?_⟩
  cases negative with
  | true => exact_mod_cast towardZero_intCast (-(m : Int))
  | false => exact_mod_cast towardZero_intCast (m : Int)

theorem Double.hasWholePart_ofInt {n : Int} (hn : |n| ≤ 2 ^ 53) :
    (Double.ofInt n).HasWholePart n := by
  refine ⟨n, value?_ofInt_whole ?_, towardZero_intCast n⟩
  zify
  exact hn

variable {value : Json} {n : Int}

/-- What denotes an integer denotes a number, which is that integer as far as
whole numbers are exact. -/
theorem Json.DenotesInteger.toNumber? (h : value.DenotesInteger n) :
    ∃ x, value.toNumber? = some x ∧ (|n| ≤ 2 ^ 53 → x.HasWholePart n) := by
  cases h with
  | text hnumeral =>
      obtain ⟨negative, m, rfl, hread⟩ := hnumeral.readDouble?
      refine ⟨_, hread, fun hn => Double.hasWholePart_ofRatio ?_⟩
      zify
      cases negative with
      | true => simpa using hn
      | false => simpa using hn
  | stored => exact ⟨_, rfl, Double.hasWholePart_ofInt⟩
  | truncated _ hdouble hexact =>
      cases value with
      | null | bool | string | array | object => contradiction
      | integer k => exact ⟨_, hdouble, fun _ => ⟨_, hexact, rfl⟩⟩
      | number x => exact ⟨_, hdouble, fun _ => ⟨_, hexact, rfl⟩⟩
  | yes => exact ⟨_, rfl, Double.hasWholePart_ofInt⟩
  | no => exact ⟨_, rfl, Double.hasWholePart_ofInt⟩

namespace Variable

/-- A value that an integer variable takes is taken by a number variable as
well, as the same integer up to the 53rd power of two. -/
theorem coerce_widened {v w : Variable} (hv : v.type = .integer)
    (hw : w.type = .number) (h : v.coerce value = .ok (.integer n)) :
    ∃ x, w.coerce value = .ok (.number x) ∧
      (|n| ≤ 2 ^ 53 → ∃ q, x.value? = some q ∧ towardZero q = n) := by
  obtain ⟨x, hread, hexact⟩ := (denotesInteger_of_coerce hv h).toNumber?
  refine ⟨x, ?_, hexact⟩
  simp only [coerce, hw, hread]

def amountVariable : Variable :=
  { name := "amount", type := .number }

/-- The last exact power of two, with a sign and white space, and the number
-1.5. -/
theorem coerce_widened_amount :
    countVariable.coerce (.string " +9007199254740992 ") =
      .ok (.integer 9007199254740992) ∧
      (∃ x, amountVariable.coerce (.string " +9007199254740992 ") =
        .ok (.number x) ∧
        ∃ q, x.value? = some q ∧ towardZero q = 9007199254740992) ∧
      countVariable.coerce (.number (.finite true 6755399441055744 (-52))) =
        .ok (.integer (-1)) ∧
      ∃ x, amountVariable.coerce
        (.number (.finite true 6755399441055744 (-52))) = .ok (.number x) ∧
        ∃ q, x.value? = some q ∧ towardZero q = -1 := by
  have hnumeral : countVariable.coerce (.string " +9007199254740992 ") =
      .ok (.integer 9007199254740992) :=
    coerce_of_denotesInteger rfl
      (Json.toInteger?_eq_some_iff.1 (by decide +kernel))
  have hnumber :
      countVariable.coerce (.number (.finite true 6755399441055744 (-52))) =
      .ok (.integer (-1)) :=
    coerce_of_denotesInteger rfl
      (Json.toInteger?_eq_some_iff.1 (by decide +kernel))
  obtain ⟨x, hx, hwhole⟩ :=
    coerce_widened (w := amountVariable) rfl rfl hnumeral
  obtain ⟨y, hy, hpart⟩ := coerce_widened (w := amountVariable) rfl rfl hnumber
  exact ⟨hnumeral, ⟨x, hx, hwhole (by decide)⟩, hnumber, y, hy,
    hpart (by decide)⟩

end Variable

end Stencil

/-
Signs.  Rounding keeps the sign it is given, so a number that is read from a
text has the sign in front of it, and a text without a hyphen is never read as a
negative number.
-/
import Stencil.Proofs.Number.Rounding

namespace Stencil

namespace Double

theorem isNegative_assemble (negative : Bool) (m : Nat) (e : Int) :
    (assemble negative m e).isNegative = negative := by
  rcases assemble_cases negative m e with ⟨-, h⟩ | ⟨-, -, h⟩ | ⟨-, -, h⟩
  all_goals
    rw [h]
    rfl

theorem isNegative_ofRatio (negative : Bool) (num den : Nat) :
    (ofRatio negative num den).isNegative = negative := by
  unfold ofRatio
  split
  · rfl
  · apply isNegative_assemble

/-- A number keeps its sign where it is rounded to zero or to infinity. -/
theorem isNegative_ofDecimal (negative : Bool) (digits : Nat) (e : Int) :
    (ofDecimal negative digits e).isNegative = negative := by
  unfold ofDecimal
  split
  · rfl
  · split
    · rfl
    · split
      · rfl
      · split
        · apply isNegative_ofRatio
        · apply isNegative_ofRatio

end Double

namespace Numeral

variable {cs : List Char} {x : Double}

/-- The sign is read off the text; only what is no number has none. -/
theorem isNegative_of_readDouble? (h : readDouble? cs = some x) :
    x = .nan ∨ x.isNegative = (takeSign cs).1 := by
  rcases cases_of_readDouble? h with rfl | rfl | ⟨digits, e, rfl⟩
  · exact Or.inr rfl
  · exact Or.inl rfl
  · exact Or.inr (Double.isNegative_ofDecimal _ digits e)

theorem takeSign_of_not_mem (h : '-' ∉ cs) : (takeSign cs).1 = false := by
  unfold takeSign
  split
  next rest => exact absurd List.mem_cons_self h
  next => rfl
  next => rfl

end Numeral

end Stencil

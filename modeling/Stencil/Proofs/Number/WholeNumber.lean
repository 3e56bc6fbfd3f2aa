/-
Whole numbers in the format.  Up to the 53rd power of two they are numbers of
the format themselves.  From the 63rd power on the grid has steps of 2048 or
more, so the first numbers after that power are rounded back to it.
-/
import Stencil.Proofs.Number.ShortestReadBack
import Stencil.Proofs.Number.Truncation

namespace Stencil.Double

variable {num den n : Nat} {q : ℚ}

theorem value?_neg (x : Double) : x.neg.value? = x.value?.map (-·) := by
  cases x with
  | nan => rfl
  | infinite negative => rfl
  | finite negative m e => cases negative <;> simp [neg, value?]

theorem assemble_true (m : Nat) (e : Int) :
    assemble true m e = (assemble false m e).neg := by
  unfold assemble
  generalize (if m = significandEnd then (leadingBit, e + 1) else (m, e)) =
    carried
  by_cases hlarge : maxExponent < carried.2
  · simp [hlarge, neg]
  · simp [hlarge, neg]

/-- The sign does not take part in rounding. -/
theorem ofRatio_true (num den : Nat) :
    ofRatio true num den = (ofRatio false num den).neg := by
  unfold ofRatio
  split
  · rfl
  · exact assemble_true _ _

/-- A decimal without places is its own fraction. -/
theorem ofDecimal_whole (negative : Bool) (n : Nat) :
    ofDecimal negative n 0 = ofRatio negative n 1 := by
  by_cases hn : n = 0
  · rw [ofDecimal, if_pos hn, ofRatio, if_pos hn]
  · rw [ofDecimal, if_neg hn, if_neg (by decide), if_neg (by omega),
      if_pos (le_refl 0)]
    simp

/-- A number of the format is rounded to itself. -/
theorem ofRatio_of_value {negative : Bool} {m : Nat} {e : Int}
    (hcanonical : (finite negative m e).Canonical) (hm : 0 < m) (hden : 0 < den)
    (h : (num / den : ℚ) = m * 2 ^ e) :
    ofRatio negative num den = finite negative m e := by
  refine ofRatio_of_contains hcanonical hm hden ?_
  have hquarters : (num / den / 2 ^ (e - 2) : ℚ) = 4 * m := by
    rw [h, mul_div_assoc, ← zpow_sub₀ (by norm_num), sub_sub_cancel]
    norm_num
    ring
  rw [hquarters]
  unfold Decimal.basin Decimal.Basin.Contains
  simp only
  have hbelow : 4 * m - (if m = leadingBit ∧ minExponent < e then 1 else 2) <
      4 * m := by
    split <;> omega
  have hlow :
      ((4 * m - (if m = leadingBit ∧ minExponent < e then 1 else 2) : Nat) :
        ℚ) < 4 * m := by
    exact_mod_cast hbelow
  have hhigh : (4 * m : ℚ) < (4 * m + 2 : Nat) := by
    push_cast
    linarith
  exact ⟨hlow.le, hhigh.le, fun _ => ⟨hlow, hhigh⟩⟩

/-- Whole numbers up to the 53rd power of two have a spelling. -/
theorem exists_canonical (negative : Bool) (hpos : 0 < n) (hn : n ≤ 2 ^ 53) :
    ∃ m e, (finite negative m e).Canonical ∧ 0 < m ∧ (n : ℚ) = m * 2 ^ e := by
  rcases Nat.eq_or_lt_of_le hn with rfl | hlt
  · refine ⟨leadingBit, 1,
      ⟨by decide, by decide, by decide, Or.inl le_rfl⟩, by decide, ?_⟩
    norm_num [leadingBit]
  · have hlog : n.log2 ≤ 52 := Nat.le_of_lt_succ ((Nat.log2_lt hpos.ne').2 hlt)
    have hsplit : 2 ^ n.log2 * 2 ^ (52 - n.log2) = leadingBit := by
      rw [← Nat.pow_add, Nat.add_sub_cancel' hlog]
      rfl
    have hlow : leadingBit ≤ n * 2 ^ (52 - n.log2) := by
      rw [← hsplit]
      exact Nat.mul_le_mul_right _ (Nat.log2_self_le hpos.ne')
    have hhigh : n * 2 ^ (52 - n.log2) < significandEnd := by
      rw [significandEnd, ← hsplit, ← Nat.mul_assoc, ← Nat.pow_succ']
      exact Nat.mul_lt_mul_of_pos_right Nat.lt_log2_self (Nat.two_pow_pos _)
    refine ⟨n * 2 ^ (52 - n.log2), (n.log2 : Int) - 52,
      ⟨hhigh, ?_, ?_, Or.inl hlow⟩, ?_, ?_⟩
    · unfold minExponent
      omega
    · unfold maxExponent
      omega
    · exact Nat.mul_pos hpos (Nat.two_pow_pos _)
    · have hexponent : (n.log2 : Int) - 52 = -((52 - n.log2 : Nat) : Int) := by
        omega
      rw [hexponent, zpow_neg, zpow_natCast]
      push_cast
      rw [mul_inv_cancel_right₀ (by positivity)]

/-- Whole numbers up to the 53rd power of two are not rounded. -/
theorem value?_ofRatio_whole (negative : Bool) (hn : n ≤ 2 ^ 53) :
    (ofRatio negative n 1).value? =
      some (if negative then -(n : ℚ) else n) := by
  rcases Nat.eq_zero_or_pos n with rfl | hpos
  · simp [ofRatio, zero, value?]
  · obtain ⟨m, e, hcanonical, hm, hvalue⟩ := exists_canonical negative hpos hn
    rw [ofRatio_of_value hcanonical hm (by decide)
        (by rw [Nat.cast_one, div_one, hvalue]), value?, hvalue]

theorem value?_ofInt_whole {k : Int} (hk : k.natAbs ≤ 2 ^ 53) :
    (ofInt k).value? = some (k : ℚ) := by
  rw [ofInt, value?_ofRatio_whole _ hk, Nat.cast_natAbs]
  by_cases hneg : k < 0
  · rw [decide_eq_true hneg, if_pos rfl, abs_of_neg hneg, Int.cast_neg, neg_neg]
  · rw [decide_eq_false hneg, if_neg (by simp), abs_of_nonneg (not_lt.1 hneg)]

/-- Half a step after the 63rd power of two is still rounded to that power. -/
theorem ofRatio_limit (negative : Bool) (hlow : 2 ^ 63 ≤ n)
    (hhigh : n ≤ 2 ^ 63 + 1024) :
    ofRatio negative n 1 = finite negative leadingBit 11 := by
  have hcanonical : (finite negative leadingBit 11).Canonical :=
    ⟨by decide, by decide, by decide, Or.inl le_rfl⟩
  refine ofRatio_of_contains hcanonical (by decide) (by decide) ?_
  have hlowRat : (2 ^ 63 : ℚ) ≤ n := by exact_mod_cast hlow
  have hhighRat : (n : ℚ) ≤ 2 ^ 63 + 1024 := by exact_mod_cast hhigh
  have hpow : (2 : ℚ) ^ ((11 : Int) - 2) = 512 := by norm_num
  have hbasin : Decimal.basin leadingBit 11 =
      ⟨4 * leadingBit - 1, 4 * leadingBit, 4 * leadingBit + 2, true⟩ := rfl
  rw [hbasin, Nat.cast_one, div_one, hpow]
  refine ⟨?_, ?_, nofun⟩
  · rw [le_div_iff₀ (by norm_num)]
    norm_num [leadingBit] at hlowRat ⊢
    linarith
  · rw [div_le_iff₀ (by norm_num)]
    norm_num [leadingBit] at hhighRat ⊢
    linarith

/-- What lies more than half a step after a number of the grid is rounded to a
later one. -/
theorem lt_roundHalfEven {k : Nat} (hden : 0 < den)
    (h : 2 * k * den + den < 2 * num) :
    k < roundHalfEven num den := by
  have hdiv : den * (num / den) + num % den = num := Nat.div_add_mod num den
  have hmod : num % den < den := Nat.mod_lt num hden
  obtain ⟨hround, -⟩ := roundHalfEven_bounds num den
  have hle : k ≤ num / den := by
    rw [Nat.le_div_iff_mul_le hden]
    linarith
  rcases Nat.eq_or_lt_of_le hle with rfl | hlt
  · -- the fraction is past the middle of the step
    have htwice : den < 2 * (num % den) := by linarith
    rw [roundHalfEven, if_neg (by omega), if_pos htwice]
    exact Nat.lt_succ_self _
  · exact hlt.trans_le hround

/-- Further after the 63rd power of two the result is at least one step away
from it. -/
theorem le_value_beyond_limit (hn : 2 ^ 63 + 1024 < n)
    (h : (ofRatio false n 1).value? = some q) :
    2 ^ 63 + 2048 ≤ q := by
  by_cases hend : n < 2 ^ 64
  · have hlowRat : (2 ^ 63 : ℚ) ≤ n := by exact_mod_cast (by omega : 2 ^ 63 ≤ n)
    have hendRat : (n : ℚ) < 2 ^ 64 := by exact_mod_cast hend
    have hpos : 0 < n := by omega
    have hfloor : floorLog2 n 1 = 63 := by
      apply floorLog2_eq hpos (by decide)
      · rw [Nat.cast_one, div_one]
        exact_mod_cast hlowRat
      · rw [Nat.cast_one, div_one]
        exact_mod_cast hendRat
    have hgrid : gridExponent n 1 = 11 := by
      rw [gridExponent, hfloor]
      rfl
    rw [ofRatio_of_pos false hpos, hgrid] at h
    rw [value?_assemble h]
    have hround : leadingBit < roundHalfEven n 2048 := by
      apply lt_roundHalfEven (by decide)
      unfold leadingBit
      omega
    have hroundRat : (leadingBit + 1 : ℚ) ≤ roundHalfEven n 2048 := by
      exact_mod_cast hround
    calc (2 ^ 63 + 2048 : ℚ) = (leadingBit + 1) * 2 ^ (11 : Int) := by
          norm_num [leadingBit]
      _ ≤ roundHalfEven n 2048 * 2 ^ (11 : Int) := by gcongr
  · calc (2 ^ 63 + 2048 : ℚ) ≤ 2 ^ 64 := by norm_num
      _ ≤ q := two_pow_le_value_whole (not_lt.1 hend) h

end Stencil.Double

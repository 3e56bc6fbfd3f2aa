/-
The exact value of a number of the format and its whole part.  Truncation is
exact: it gives the integer next to the value in the direction of zero.
Rounding does not cross a power of two, so a large integer stays as large.
-/
import Mathlib.Algebra.Order.Floor.Semifield
import Mathlib.Data.Rat.Floor
import Stencil.Proofs.Number.Rounding

namespace Stencil

/-- The integer next to a rational number in the direction of zero. -/
def towardZero (q : ℚ) : Int :=
  if q < 0 then ⌈q⌉ else ⌊q⌋

theorem towardZero_of_nonneg {q : ℚ} (hq : 0 ≤ q) :
    towardZero q = (⌊q⌋₊ : Int) := by
  rw [towardZero, if_neg (not_lt.2 hq), Int.natCast_floor_eq_floor hq]

theorem towardZero_neg (q : ℚ) : towardZero (-q) = -towardZero q := by
  unfold towardZero
  rcases lt_trichotomy q 0 with hneg | rfl | hpos
  · rw [if_neg (not_lt.2 (neg_pos.2 hneg).le), if_pos hneg, Int.floor_neg]
  · simp
  · rw [if_pos (neg_lt_zero.2 hpos), if_neg (not_lt.2 hpos.le), Int.ceil_neg]

theorem towardZero_intCast (n : Int) : towardZero n = n := by
  rw [towardZero, Int.ceil_intCast, Int.floor_intCast, ite_self]

/-- The direction of zero does not lead past an integer. -/
theorem le_towardZero {n : Int} {q : ℚ} (hn : 0 ≤ n) (h : (n : ℚ) ≤ q) :
    n ≤ towardZero q := by
  have hq : 0 ≤ q := (Int.cast_nonneg hn).trans h
  rw [towardZero, if_neg (not_lt.2 hq)]
  exact Int.le_floor.2 h

namespace Double

/-- The rational number that a finite number is. -/
def value? : Double → Option ℚ
  | finite negative m e => some (if negative then -(m * 2 ^ e) else m * 2 ^ e)
  | _ => none

/-- The whole part of a magnitude. -/
theorem wholePart_eq (m : Nat) (e : Int) :
    (if 0 ≤ e then m * Nat.pow 2 e.toNat else m / Nat.pow 2 (-e).toNat) =
      ⌊(m * 2 ^ e : ℚ)⌋₊ := by
  split
  next hnonneg =>
      rw [← cast_pow_toNat hnonneg, ← Nat.cast_mul, Nat.floor_natCast]
  next hneg =>
      rw [← Nat.floor_div_eq_div (K := ℚ), cast_pow_toNat (by omega), zpow_neg,
        div_inv_eq_mul]

/-- Truncation is exact. -/
theorem truncate?_eq_map (x : Double) :
    x.truncate? = x.value?.map towardZero := by
  cases x with
  | nan => rfl
  | infinite negative => rfl
  | finite negative m e =>
      have hnonneg : (0 : ℚ) ≤ m * 2 ^ e := by positivity
      rw [truncate?, value?, wholePart_eq, Option.map_some, Option.some.injEq]
      cases negative with
      | false => exact (towardZero_of_nonneg hnonneg).symm
      | true =>
          rw [if_pos rfl, towardZero_neg, towardZero_of_nonneg hnonneg]
          rfl

/-- The carry of a significand does not change the value. -/
theorem value?_assemble {m : Nat} {e : Int} {q : ℚ}
    (h : (assemble false m e).value? = some q) :
    q = m * 2 ^ e := by
  rcases assemble_cases false m e with
    ⟨-, hcase⟩ | ⟨-, -, hcase⟩ | ⟨hcarry, -, hcase⟩
  all_goals rw [hcase] at h
  · contradiction
  · exact (Option.some.inj h).symm
  · obtain rfl := Option.some.inj h
    rw [if_neg (by decide), hcarry, significandEnd, zpow_add₀ (by norm_num),
      zpow_one]
    push_cast
    ring

/-- A fraction is not rounded below a power of two under it. -/
theorem two_zpow_le_value {num den : Nat} {f : Int} {q : ℚ} (hden : 0 < den)
    (hf : minExponent ≤ f) (hle : (2 : ℚ) ^ f ≤ num / den)
    (h : (ofRatio false num den).value? = some q) :
    (2 : ℚ) ^ f ≤ q := by
  have hnum : 0 < num := by
    refine Nat.pos_of_ne_zero fun hzero => ?_
    rw [hzero, Nat.cast_zero, zero_div] at hle
    have hpos : (0 : ℚ) < 2 ^ f := by positivity
    linarith
  obtain ⟨hlow, hhigh⟩ := floorLog2_le hnum hden
  have hfloor : f < floorLog2 num den + 1 :=
    two_zpow_lt_iff.1 (hle.trans_lt hhigh)
  rw [ofRatio_of_pos false hnum] at h
  have hgrid : gridExponent num den ≤ floorLog2 num den :=
    max_le (by omega) (by omega)
  have hvalue := scaleDown_value num den (gridExponent num den)
  have hpos : 0 < (scaleDown num den (gridExponent num den)).2 :=
    scaleDown_den_pos hden _
  obtain ⟨hround, -⟩ := roundHalfEven_bounds
    (scaleDown num den (gridExponent num den)).1
      (scaleDown num den (gridExponent num den)).2
  have hq := value?_assemble h
  generalize scaleDown num den (gridExponent num den) =
    scaled at hvalue hpos hround hq
  generalize gridExponent num den = g at hvalue hgrid hq
  -- the significand counts at least the steps up to the highest power of two
  have hsteps : Nat.pow 2 (floorLog2 num den - g).toNat ≤
      roundHalfEven scaled.1 scaled.2 := by
    refine le_trans ?_ hround
    rw [Nat.le_div_iff_mul_le hpos]
    have hposRat : (0 : ℚ) < scaled.2 := by exact_mod_cast hpos
    have hscaled : (2 : ℚ) ^ (floorLog2 num den - g) ≤ scaled.1 / scaled.2 := by
      rw [hvalue, zpow_sub₀ (by norm_num)]
      gcongr
    rw [le_div_iff₀ hposRat, ← cast_pow_toNat (by omega)] at hscaled
    exact_mod_cast hscaled
  calc (2 : ℚ) ^ f ≤ 2 ^ floorLog2 num den :=
      zpow_le_zpow_right₀ (by norm_num) (by omega)
    _ = 2 ^ (floorLog2 num den - g) * 2 ^ g := by
        rw [← zpow_add₀ (by norm_num), sub_add_cancel]
    _ ≤ roundHalfEven scaled.1 scaled.2 * 2 ^ g := by
        rw [← cast_pow_toNat (by omega)]
        gcongr
    _ = q := hq.symm

/-- A whole number from a power of two on is not rounded below it. -/
theorem two_pow_le_value_whole {n f : Nat} {q : ℚ} (hn : 2 ^ f ≤ n)
    (h : (ofRatio false n 1).value? = some q) : 2 ^ f ≤ q := by
  have hle : (2 : ℚ) ^ (f : Int) ≤ n / (1 : Nat) := by
    rw [Nat.cast_one, div_one, zpow_natCast]
    exact_mod_cast hn
  have hvalue :=
    two_zpow_le_value (by decide) (by unfold minExponent; omega) hle h
  rwa [zpow_natCast] at hvalue

/-- An integer from a power of two on is not rounded below it. -/
theorem two_pow_le_value_ofInt {k : Int} {f : Nat} {q : ℚ} (hk : 2 ^ f ≤ k)
    (h : (ofInt k).value? = some q) : 2 ^ f ≤ q := by
  have hpos : (0 : Int) < k := lt_of_lt_of_le (by positivity) hk
  have hsign : decide (k < 0) = false := decide_eq_false (by omega)
  have hmagnitude : 2 ^ f ≤ k.natAbs := by
    zify
    rwa [abs_of_pos hpos]
  rw [ofInt, hsign] at h
  exact two_pow_le_value_whole hmagnitude h

end Double

end Stencil

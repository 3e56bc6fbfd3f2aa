/-
Rounding to the format.  A fraction is scaled to the grid of its magnitude and
rounded there, so every result is the one spelling of its number, and what
lies close enough to a number of the format is rounded to that number.
-/
import Mathlib.Algebra.Order.Field.Power
import Mathlib.Data.Rat.Cast.Order
import Mathlib.Tactic.FieldSimp
import Mathlib.Tactic.Linarith
import Mathlib.Tactic.NormNum
import Mathlib.Tactic.Positivity
import Mathlib.Tactic.Ring
import Stencil.Number.Numeral
import Stencil.Number.Shortest

namespace Stencil

namespace Double

variable {num den : Nat}

theorem scaleDown_den_pos (hden : 0 < den) (e : Int) :
    0 < (scaleDown num den e).2 := by
  unfold scaleDown
  split
  · exact Nat.mul_pos hden (Nat.pow_pos (by decide))
  · exact hden

/-- A power of two with a natural exponent. -/
theorem cast_pow_toNat {e : Int} (he : 0 ≤ e) :
    ((Nat.pow 2 e.toNat : Nat) : ℚ) = 2 ^ e := by
  rw [Nat.pow_eq, Nat.cast_pow, ← zpow_natCast, Int.toNat_of_nonneg he]
  rfl

/-- Scaling divides the fraction by the power of two. -/
theorem scaleDown_value (num den : Nat) (e : Int) :
    ((scaleDown num den e).1 : ℚ) / (scaleDown num den e).2 =
      num / den / 2 ^ e := by
  unfold scaleDown
  split
  next hnonneg => rw [Nat.cast_mul, cast_pow_toNat hnonneg, div_div]
  next hneg =>
      rw [Nat.cast_mul, cast_pow_toNat (by omega), zpow_neg]
      ring

/-- The leading power of two of a natural number. -/
theorem log2_bounds {n : Nat} (hn : 0 < n) :
    (2 : ℚ) ^ (n.log2 : Int) ≤ n ∧ (n : ℚ) < 2 ^ ((n.log2 : Int) + 1) := by
  constructor
  · rw [zpow_natCast]
    exact_mod_cast Nat.log2_self_le hn.ne'
  · rw [← Nat.cast_succ, zpow_natCast]
    exact_mod_cast Nat.lt_log2_self

/-- The quotient of the leading powers is off by a factor of two at most. -/
theorem quotient_bounds (hnum : 0 < num) (hden : 0 < den) :
    (2 : ℚ) ^ ((num.log2 : Int) - den.log2 - 1) ≤ num / den ∧
      (num / den : ℚ) < 2 ^ ((num.log2 : Int) - den.log2 + 1) := by
  obtain ⟨hnumLow, hnumHigh⟩ := log2_bounds hnum
  obtain ⟨hdenLow, hdenHigh⟩ := log2_bounds hden
  have hdenPos : (0 : ℚ) < den := by exact_mod_cast hden
  constructor
  · rw [le_div_iff₀ hdenPos]
    calc (2 : ℚ) ^ ((num.log2 : Int) - den.log2 - 1) * den
        ≤ 2 ^ ((num.log2 : Int) - den.log2 - 1) *
          2 ^ ((den.log2 : Int) + 1) := by
          gcongr
      _ = 2 ^ (num.log2 : Int) := by
          rw [← zpow_add₀ (by norm_num)]
          congr 1
          ring
      _ ≤ num := hnumLow
  · rw [div_lt_iff₀ hdenPos]
    calc (num : ℚ) < 2 ^ ((num.log2 : Int) + 1) := hnumHigh
      _ = 2 ^ ((num.log2 : Int) - den.log2 + 1) * 2 ^ (den.log2 : Int) := by
          rw [← zpow_add₀ (by norm_num)]
          congr 1
          ring
      _ ≤ 2 ^ ((num.log2 : Int) - den.log2 + 1) * den := by gcongr

theorem floorLog2_le (hnum : 0 < num) (hden : 0 < den) :
    (2 : ℚ) ^ floorLog2 num den ≤ num / den ∧
      (num / den : ℚ) < 2 ^ (floorLog2 num den + 1) := by
  obtain ⟨hlow, hhigh⟩ := quotient_bounds hnum hden
  have hscaled := scaleDown_value num den ((num.log2 : Int) - den.log2)
  have hpos :
      (0 : ℚ) < (scaleDown num den ((num.log2 : Int) - den.log2)).2 := by
    exact_mod_cast scaleDown_den_pos hden _
  have hpow : (0 : ℚ) < 2 ^ ((num.log2 : Int) - den.log2) := by positivity
  unfold floorLog2
  simp only
  split
  next hle =>
      have hone : (1 : ℚ) ≤ num / den / 2 ^ ((num.log2 : Int) - den.log2) := by
        rw [← hscaled, one_le_div hpos]
        exact_mod_cast hle
      rw [one_le_div hpow] at hone
      exact ⟨hone, hhigh⟩
  next hlt =>
      have hone : (num / den / 2 ^ ((num.log2 : Int) - den.log2) : ℚ) < 1 := by
        rw [← hscaled, div_lt_one hpos]
        exact_mod_cast Nat.lt_of_not_le hlt
      rw [div_lt_one hpow] at hone
      exact ⟨hlow, by rwa [sub_add_cancel]⟩

theorem two_zpow_lt_iff {a b : Int} : (2 : ℚ) ^ a < 2 ^ b ↔ a < b :=
  zpow_lt_zpow_iff_right₀ (by norm_num)

theorem floorLog2_eq {f : Int} (hnum : 0 < num) (hden : 0 < den)
    (hlow : (2 : ℚ) ^ f ≤ num / den) (hhigh : (num / den : ℚ) < 2 ^ (f + 1)) :
    floorLog2 num den = f := by
  obtain ⟨hle, hlt⟩ := floorLog2_le hnum hden
  have hupper := two_zpow_lt_iff.1 (hle.trans_lt hhigh)
  have hlower := two_zpow_lt_iff.1 (hlow.trans_lt hlt)
  omega

/-- The number `k` is nearest to `x`, and even if it is not the only nearest. -/
def Nearest (k : Nat) (x : ℚ) : Prop :=
  (k : ℚ) - 1 / 2 ≤ x ∧ x ≤ k + 1 / 2 ∧
    (k % 2 = 1 → (k : ℚ) - 1 / 2 < x ∧ x < k + 1 / 2)

theorem roundHalfEven_bounds (num den : Nat) :
    num / den ≤ roundHalfEven num den ∧
      roundHalfEven num den ≤ num / den + 1 := by
  unfold roundHalfEven
  simp only
  split
  · omega
  · split
    · omega
    · have := Nat.mod_lt (num / den) (show 2 > 0 by decide)
      omega

/-- To be nearest to a fraction is a matter of natural numbers. -/
theorem Nearest.natural {k : Nat} (hden : 0 < den)
    (h : Nearest k ((num : ℚ) / den)) :
    2 * k * den ≤ 2 * num + den ∧ 2 * num ≤ 2 * k * den + den ∧
      (k % 2 = 1 → 2 * k * den < 2 * num + den ∧
        2 * num < 2 * k * den + den) := by
  obtain ⟨hlow, hhigh, hodd⟩ := h
  have hdenPos : (0 : ℚ) < den := by exact_mod_cast hden
  rw [le_div_iff₀ hdenPos] at hlow
  rw [div_le_iff₀ hdenPos] at hhigh
  rw [lt_div_iff₀ hdenPos, div_lt_iff₀ hdenPos] at hodd
  have hleft : (2 * k * den : ℚ) ≤ 2 * num + den := by linarith
  have hright : (2 * num : ℚ) ≤ 2 * k * den + den := by linarith
  refine ⟨by exact_mod_cast hleft, by exact_mod_cast hright, fun hk => ?_⟩
  obtain ⟨hlow, hhigh⟩ := hodd hk
  have hleft : (2 * k * den : ℚ) < 2 * num + den := by linarith
  have hright : (2 * num : ℚ) < 2 * k * den + den := by linarith
  exact ⟨by exact_mod_cast hleft, by exact_mod_cast hright⟩

theorem roundHalfEven_eq {k : Nat} (hden : 0 < den)
    (h : Nearest k ((num : ℚ) / den)) :
    roundHalfEven num den = k := by
  obtain ⟨hlow, hhigh, hodd⟩ := h.natural hden
  -- the candidate is the quotient or the number above it
  have hdiv : den * (num / den) + num % den = num := Nat.div_add_mod num den
  have hmod : num % den < den := Nat.mod_lt num hden
  unfold roundHalfEven
  simp only
  generalize num / den = q at hdiv ⊢
  generalize num % den = r at hdiv hmod ⊢
  have hge : q ≤ k := by
    by_contra hlt
    have hmul : den * (k + 1) ≤ den * q := Nat.mul_le_mul_left den (by omega)
    linarith
  have hle : k ≤ q + 1 := by
    by_contra hgt
    have hmul : den * (q + 2) ≤ den * k := Nat.mul_le_mul_left den (by omega)
    linarith
  rcases Nat.lt_or_eq_of_le hle with hlt | rfl
  · obtain rfl : k = q := by omega
    have htwice : 2 * r ≤ den := by linarith
    by_cases htie : 2 * r = den
    · have heven : k % 2 ≠ 1 := by
        intro hk
        have hstrict := (hodd hk).2
        linarith
      rw [if_neg (by omega), if_neg (by omega)]
      omega
    · rw [if_pos (by omega)]
  · have htwice : den ≤ 2 * r := by linarith
    by_cases htie : den = 2 * r
    · have heven : (q + 1) % 2 ≠ 1 := by
        intro hk
        have hstrict := (hodd hk).1
        linarith
      rw [if_neg (by omega), if_neg (by omega)]
      omega
    · rw [if_neg (by omega), if_pos (by omega)]

/-- The exponent that a fraction is rounded at. -/
def gridExponent (num den : Nat) : Int :=
  max minExponent (floorLog2 num den - 52)

theorem ofRatio_of_pos (negative : Bool) (hnum : 0 < num) :
    ofRatio negative num den =
      assemble negative
        (roundHalfEven (scaleDown num den (gridExponent num den)).1
        (scaleDown num den (gridExponent num den)).2)
          (gridExponent num den) := by
  rw [ofRatio, if_neg hnum.ne']
  rfl

theorem ofRatio_of_nearest {k : Nat} {g : Int} (negative : Bool)
    (hnum : 0 < num) (hden : 0 < den) (hgrid : gridExponent num den = g)
    (hnear : Nearest k (num / den / 2 ^ g)) :
    ofRatio negative num den = assemble negative k g := by
  rw [← scaleDown_value] at hnear
  rw [ofRatio_of_pos negative hnum, hgrid,
    roundHalfEven_eq (scaleDown_den_pos hden g) hnear]

/-- Assembling gives infinity, or the number itself, or after a carry the least
number with the next exponent. -/
theorem assemble_cases (negative : Bool) (m : Nat) (e : Int) :
    (maxExponent ≤ e ∧ assemble negative m e = infinite negative) ∨
      (m ≠ significandEnd ∧ e ≤ maxExponent ∧
        assemble negative m e = finite negative m e) ∨
      (m = significandEnd ∧ e < maxExponent ∧
        assemble negative m e = finite negative leadingBit (e + 1)) := by
  unfold assemble
  by_cases hcarry : m = significandEnd
  · rw [if_pos hcarry]
    simp only
    split
    next hlarge => exact Or.inl ⟨by omega, rfl⟩
    next hsmall => exact Or.inr (Or.inr ⟨hcarry, by omega, rfl⟩)
  · rw [if_neg hcarry]
    simp only
    split
    next hlarge => exact Or.inl ⟨by omega, rfl⟩
    next hsmall => exact Or.inr (Or.inl ⟨hcarry, by omega, rfl⟩)

theorem assemble_canonical {negative : Bool} {m : Nat} {e : Int}
    (hm : m ≤ significandEnd) (he : minExponent ≤ e)
    (hgrid : leadingBit ≤ m ∨ e = minExponent) :
    (assemble negative m e).Canonical := by
  rcases assemble_cases negative m e with
    ⟨-, h⟩ | ⟨hcarry, hmax, h⟩ | ⟨-, hmax, h⟩
  all_goals rw [h]
  · trivial
  · exact ⟨by omega, he, hmax, hgrid⟩
  · exact ⟨by decide, by omega, by omega, Or.inl (le_refl _)⟩

/-- The number zero is spelled on the finest grid. -/
theorem zero_canonical (negative : Bool) : (zero negative).Canonical :=
  ⟨by decide, le_refl _, by decide, Or.inr rfl⟩

theorem ofRatio_canonical (negative : Bool) (num : Nat) (hden : 0 < den) :
    (ofRatio negative num den).Canonical := by
  rcases Nat.eq_zero_or_pos num with rfl | hnum
  · exact zero_canonical negative
  · rw [ofRatio_of_pos negative hnum]
    obtain ⟨hle, hlt⟩ := floorLog2_le hnum hden
    have hvalue := scaleDown_value num den (gridExponent num den)
    have hpos : 0 < (scaleDown num den (gridExponent num den)).2 :=
      scaleDown_den_pos hden _
    have hposRat : (0 : ℚ) < (scaleDown num den (gridExponent num den)).2 := by
      exact_mod_cast hpos
    have hpow : (0 : ℚ) < 2 ^ gridExponent num den := by positivity
    have hgrid : floorLog2 num den - 52 ≤ gridExponent num den :=
      le_max_right _ _
    obtain ⟨hlower, hupper⟩ := roundHalfEven_bounds
      (scaleDown num den (gridExponent num den)).1
        (scaleDown num den (gridExponent num den)).2
    generalize scaleDown num den (gridExponent num den) =
      scaled at hvalue hpos hposRat hlower hupper ⊢
    refine assemble_canonical ?_ (le_max_left _ _) ?_
    · have hbound : (scaled.1 : ℚ) / scaled.2 < 2 ^ (53 : Int) := by
        rw [hvalue, div_lt_iff₀ hpow, ← zpow_add₀ (by norm_num)]
        exact hlt.trans_le (zpow_le_zpow_right₀ (by norm_num) (by omega))
      have hquot : scaled.1 / scaled.2 < significandEnd := by
        rw [div_lt_iff₀ hposRat] at hbound
        rw [Nat.div_lt_iff_lt_mul hpos]
        have : (scaled.1 : ℚ) < significandEnd * scaled.2 := by
          norm_num [significandEnd, leadingBit] at hbound ⊢
          exact hbound
        exact_mod_cast this
      omega
    · by_cases hfine : floorLog2 num den - 52 < minExponent
      · exact Or.inr (max_eq_left (by omega))
      · left
        have hexp : gridExponent num den = floorLog2 num den - 52 :=
          max_eq_right (by omega)
        have hbound : 2 ^ (52 : Int) ≤ (scaled.1 : ℚ) / scaled.2 := by
          rw [hvalue, le_div_iff₀ hpow, ← zpow_add₀ (by norm_num), hexp]
          refine le_trans (zpow_le_zpow_right₀ (by norm_num) (by omega)) hle
        have hquot : leadingBit ≤ scaled.1 / scaled.2 := by
          rw [le_div_iff₀ hposRat] at hbound
          rw [Nat.le_div_iff_mul_le hpos]
          have : (leadingBit * scaled.2 : ℚ) ≤ scaled.1 := by
            norm_num [leadingBit] at hbound ⊢
            exact hbound
          exact_mod_cast this
        omega

theorem ofInt_canonical (n : Int) : (ofInt n).Canonical :=
  ofRatio_canonical _ _ (by decide)

theorem ofDecimal_canonical (negative : Bool) (digits : Nat) (e : Int) :
    (ofDecimal negative digits e).Canonical := by
  unfold ofDecimal
  split
  · exact zero_canonical negative
  split
  · trivial
  split
  · exact zero_canonical negative
  split
  · exact ofRatio_canonical _ _ (by decide)
  · exact ofRatio_canonical _ _ (Nat.pow_pos (by decide))

end Double

/-- What is read is a decimal number with the sign that is given. -/
theorem Numeral.exists_of_readUnsigned? {negative : Bool} {cs : List Char}
    {x : Double} (h : readUnsigned? negative cs = some x) :
    ∃ digits e, x = Double.ofDecimal negative digits e := by
  unfold readUnsigned? at h
  simp only at h
  split at h
  all_goals
    split at h
    · contradiction
    · obtain ⟨e, -, rfl⟩ := Option.map_eq_some_iff.1 h
      exact ⟨_, _, rfl⟩

/-- The ways to read a numeral: the words for infinity and for what is no
number, and the decimal numbers. -/
theorem Numeral.cases_of_readDouble? {cs : List Char} {x : Double}
    (h : readDouble? cs = some x) :
    x = .infinite (takeSign cs).1 ∨ x = .nan ∨
      ∃ digits e, x = Double.ofDecimal (takeSign cs).1 digits e := by
  unfold readDouble? at h
  simp only at h
  split at h
  · exact Or.inl (Option.some.inj h).symm
  split at h
  · exact Or.inr (Or.inl (Option.some.inj h).symm)
  · exact Or.inr (Or.inr (exists_of_readUnsigned? h))

theorem Numeral.readDouble?_canonical {cs : List Char} {x : Double}
    (h : readDouble? cs = some x) : x.Canonical := by
  rcases cases_of_readDouble? h with rfl | rfl | ⟨digits, e, rfl⟩
  · trivial
  · trivial
  · exact Double.ofDecimal_canonical _ digits e

end Stencil

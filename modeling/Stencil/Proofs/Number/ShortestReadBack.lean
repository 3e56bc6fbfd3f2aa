/-
The shortest decimal reads back.  Everything in the interval around a number
is rounded to that number, and the search over the grids ends with a point of
the interval, because the last grid is finer than the interval is wide.
-/
import Stencil.Proofs.Number.Rounding

namespace Stencil

namespace Decimal

/-- The interval contains a value, which is given in quarter units. -/
def Basin.Contains (b : Basin) (y : ℚ) : Prop :=
  b.low ≤ y ∧ y ≤ b.high ∧ (b.closed = false → b.low < y ∧ y < b.high)

theorem Basin.contains_of_admits {b : Basin} {unit step d : Nat}
    (hunit : 0 < unit) (h : b.admits unit step d = true) :
    b.Contains (d * step / unit) := by
  have hunitPos : (0 : ℚ) < unit := by exact_mod_cast hunit
  unfold Basin.Contains
  rw [le_div_iff₀ hunitPos, div_le_iff₀ hunitPos, lt_div_iff₀ hunitPos,
    div_lt_iff₀ hunitPos]
  unfold Basin.admits at h
  cases hclosed : b.closed with
  | true =>
      rw [hclosed, if_pos rfl, Bool.and_eq_true, decide_eq_true_iff,
        decide_eq_true_iff] at h
      exact ⟨by exact_mod_cast h.1, by exact_mod_cast h.2, nofun⟩
  | false =>
      rw [hclosed, if_neg (by simp), Bool.and_eq_true, decide_eq_true_iff,
        decide_eq_true_iff] at h
      refine ⟨by exact_mod_cast h.1.le, by exact_mod_cast h.2.le, fun _ => ?_⟩
      exact ⟨by exact_mod_cast h.1, by exact_mod_cast h.2⟩

end Decimal

namespace Double

open Decimal

variable {negative : Bool} {m : Nat} {e : Int}

/-- The bounds of the interval, which are narrower below a power of two. -/
theorem bounds_of_contains {y : ℚ} (hm : 0 < m) (h : (basin m e).Contains y) :
    (4 * m - 2 ≤ y ∧ y ≤ 4 * m + 2) ∧
      (m % 2 = 1 → 4 * m - 2 < y ∧ y < 4 * m + 2) ∧
      (m = leadingBit → minExponent < e → 4 * m - 1 ≤ y) := by
  unfold basin Basin.Contains at h
  simp only at h
  obtain ⟨hlow, hhigh, hopen⟩ := h
  push_cast at hhigh hopen
  have hodd : m % 2 = 1 → (m % 2 == 0) = false := by
    intro hk
    simp [hk]
  by_cases hnarrow : m = leadingBit ∧ minExponent < e
  · rw [if_pos hnarrow, Nat.cast_sub (by omega)] at hlow
    push_cast at hlow
    refine ⟨⟨by linarith, hhigh⟩, ?_, fun _ _ => hlow⟩
    intro hk
    rw [hnarrow.1] at hk
    exact absurd hk (by decide)
  · rw [if_neg hnarrow, Nat.cast_sub (by omega)] at hlow hopen
    push_cast at hlow hopen
    exact ⟨⟨hlow, hhigh⟩, fun hk => hopen (hodd hk), fun hlead he =>
      absurd ⟨hlead, he⟩ hnarrow⟩

/-- In units of the last place the interval rounds to the significand. -/
theorem nearest_of_contains {y : ℚ} (hm : 0 < m) (h : (basin m e).Contains y) :
    Nearest m (y / 4) := by
  obtain ⟨⟨hlow, hhigh⟩, hodd, -⟩ := bounds_of_contains hm h
  refine ⟨by linarith, by linarith, ?_⟩
  intro hk
  obtain ⟨hlow, hhigh⟩ := hodd hk
  exact ⟨by linarith, by linarith⟩

theorem zpow_quarter (e a : Int) :
    (2 : ℚ) ^ (e + a) = 2 ^ (a + 2) * 2 ^ (e - 2) := by
  rw [← zpow_add₀ (by norm_num)]
  congr 1
  ring

/-- Below a power of two the fraction is rounded on the finer grid, where the
carry brings it to that power. -/
theorem ofRatio_of_contains_below {num den : Nat} {y : ℚ} (negative : Bool)
    (hnum : 0 < num) (hden : 0 < den) (hmin : minExponent < e)
    (hmax : e ≤ maxExponent) (hy : (num / den : ℚ) = y * 2 ^ (e - 2))
    (hlow : 4 * (leadingBit : ℚ) - 1 ≤ y) (hhigh : y < 4 * leadingBit) :
    ofRatio negative num den = finite negative leadingBit e := by
  have hunit : (0 : ℚ) < 2 ^ (e - 2) := by positivity
  have hfloor : floorLog2 num den = e + 51 := by
    apply floorLog2_eq hnum hden
    · rw [zpow_quarter, hy]
      gcongr
      norm_num [leadingBit] at hlow ⊢
      linarith
    · rw [add_assoc, zpow_quarter, hy]
      gcongr
      norm_num [leadingBit] at hhigh ⊢
      exact hhigh
  have hgrid : gridExponent num den = e - 1 := by
    unfold gridExponent
    omega
  have hnear : Nearest significandEnd (num / den / 2 ^ (e - 1)) := by
    have hhalf : (num / den / 2 ^ (e - 1) : ℚ) = y / 2 := by
      have hsplit : (2 : ℚ) ^ (e - 1) = 2 * 2 ^ (e - 2) := zpow_quarter e (-1)
      rw [hy, hsplit]
      field_simp
    rw [hhalf]
    refine ⟨?_, ?_, fun hodd => absurd hodd (by decide)⟩
    · rw [significandEnd]
      push_cast
      linarith
    · rw [significandEnd]
      push_cast
      linarith
  rw [ofRatio_of_nearest negative hnum hden hgrid hnear]
  unfold assemble
  rw [if_pos rfl]
  simp only [sub_add_cancel]
  rw [if_neg (by omega)]

/-- Elsewhere in the interval the grid is that of the number itself. -/
theorem gridExponent_of_contains {num den : Nat} {y : ℚ}
    (hcanonical : (finite negative m e).Canonical) (hnum : 0 < num)
    (hden : 0 < den) (hy : (num / den : ℚ) = y * 2 ^ (e - 2))
    (hlow : 4 * m - 2 ≤ y) (hhigh : y ≤ 4 * m + 2)
    (habove : m = leadingBit → minExponent < e → 4 * m ≤ y) :
    gridExponent num den = e := by
  obtain ⟨hend, hmin, -, hleading⟩ := hcanonical
  have hendRat : (m : ℚ) + 1 ≤ 2 ^ 53 := by
    have : m + 1 ≤ 2 ^ 53 := hend
    exact_mod_cast this
  have hupper : (num / den : ℚ) < 2 ^ (e + 52 + 1) := by
    rw [add_assoc, zpow_quarter, hy]
    gcongr
    norm_num at hendRat ⊢
    linarith
  unfold gridExponent
  by_cases he : minExponent < e
  · -- all 53 bits are used, so the number itself decides the magnitude
    have hlead : leadingBit ≤ m := by
      rcases hleading with hlead | heq
      · exact hlead
      · omega
    have hlower : (4 * leadingBit : ℚ) ≤ y := by
      rcases Nat.eq_or_lt_of_le hlead with heq | hlt
      · rw [heq]
        exact habove heq.symm he
      · have : (leadingBit + 1 : ℚ) ≤ m := by exact_mod_cast hlt
        linarith
    have hfloor : floorLog2 num den = e + 52 := by
      apply floorLog2_eq hnum hden _ hupper
      rw [zpow_quarter, hy]
      gcongr
      norm_num [leadingBit] at hlower ⊢
      exact hlower
    omega
  · have hfloor :=
      two_zpow_lt_iff.1 ((floorLog2_le hnum hden).1.trans_lt hupper)
    omega

/-- What lies in the interval around a number is rounded to that number. -/
theorem ofRatio_of_contains {num den : Nat}
    (hcanonical : (finite negative m e).Canonical) (hm : 0 < m) (hden : 0 < den)
    (h : (basin m e).Contains (num / den / 2 ^ (e - 2))) :
    ofRatio negative num den = finite negative m e := by
  have hunit : (0 : ℚ) < 2 ^ (e - 2) := by positivity
  have hy : (num / den : ℚ) = num / den / 2 ^ (e - 2) * 2 ^ (e - 2) := by
    rw [div_mul_cancel₀ _ hunit.ne']
  have hnear := nearest_of_contains hm h
  obtain ⟨⟨hlow, hhigh⟩, -, hnarrow⟩ := bounds_of_contains hm h
  generalize (num / den / 2 ^ (e - 2) : ℚ) = y at hy hlow hhigh hnarrow hnear
  have hmOne : (1 : ℚ) ≤ m := by exact_mod_cast hm
  have hnum : 0 < num := by
    rcases Nat.eq_zero_or_pos num with rfl | hpos
    · rw [Nat.cast_zero, zero_div] at hy
      rcases mul_eq_zero.1 hy.symm with hzero | hzero
      · linarith
      · exact absurd hzero hunit.ne'
    · exact hpos
  have hend : m < significandEnd := hcanonical.1
  have hmax : e ≤ maxExponent := hcanonical.2.2.1
  by_cases hbelow : (m = leadingBit ∧ minExponent < e) ∧ y < 4 * m
  · obtain ⟨⟨rfl, he⟩, hlt⟩ := hbelow
    exact ofRatio_of_contains_below negative hnum hden he hmax hy
      (hnarrow rfl he) hlt
  · have hgrid :=
      gridExponent_of_contains hcanonical hnum hden hy hlow hhigh
        fun hlead he => le_of_not_gt fun hlt => hbelow ⟨⟨hlead, he⟩, hlt⟩
    have hquarter : (num / den / 2 ^ e : ℚ) = y / 4 := by
      have hsplit : (2 : ℚ) ^ e = 4 * 2 ^ (e - 2) := by
        have := zpow_quarter e 0
        norm_num at this
        exact this
      rw [hy, hsplit]
      field_simp
    rw [ofRatio_of_nearest negative hnum hden hgrid (by rwa [hquarter])]
    unfold assemble
    rw [if_neg (by omega)]
    simp only
    rw [if_neg (by omega)]

/-- The numbers of the format are less than `10 ^ 311`. -/
theorem lt_of_contains {x : ℚ} (hcanonical : (finite negative m e).Canonical)
    (hm : 0 < m) (h : (basin m e).Contains (x / 2 ^ (e - 2))) :
    x < 10 ^ (311 : Int) := by
  obtain ⟨hend, -, hmax, -⟩ := hcanonical
  have hunit : (0 : ℚ) < 2 ^ (e - 2) := by positivity
  obtain ⟨⟨-, hhigh⟩, -⟩ := bounds_of_contains hm h
  rw [div_le_iff₀ hunit] at hhigh
  have hend : (m : ℚ) + 1 ≤ 2 ^ 53 := by
    have : m + 1 ≤ 2 ^ 53 := hend
    exact_mod_cast this
  calc x ≤ (4 * m + 2) * 2 ^ (e - 2) := hhigh
    _ ≤ 2 ^ (55 : Int) * 2 ^ (e - 2) := by
        gcongr
        norm_num at hend ⊢
        linarith
    _ = 2 ^ (e + 53) := by rw [zpow_quarter]; norm_num
    _ ≤ 2 ^ (1024 : Int) :=
        zpow_le_zpow_right₀ (by norm_num) (by unfold maxExponent at hmax; omega)
    _ < 10 ^ (311 : Int) := by
        have hpow : 2 ^ 1024 < 10 ^ 311 := by decide +kernel
        exact_mod_cast hpow

/-- The positive numbers of the format are at least `2 ^ (-1075)` away from
zero, the intervals around them included. -/
theorem le_of_contains {x : ℚ} (hcanonical : (finite negative m e).Canonical)
    (hm : 0 < m) (h : (basin m e).Contains (x / 2 ^ (e - 2))) :
    2 ^ (-1075 : Int) ≤ x := by
  obtain ⟨-, hmin, -, -⟩ := hcanonical
  have hunit : (0 : ℚ) < 2 ^ (e - 2) := by positivity
  obtain ⟨⟨hlow, -⟩, -⟩ := bounds_of_contains hm h
  rw [le_div_iff₀ hunit] at hlow
  have hmOne : (1 : ℚ) ≤ m := by exact_mod_cast hm
  calc (2 : ℚ) ^ (-1075 : Int) ≤ 2 ^ (e + -1) :=
        zpow_le_zpow_right₀ (by norm_num) (by unfold minExponent at hmin; omega)
    _ = 2 * 2 ^ (e - 2) := zpow_quarter e (-1)
    _ ≤ (4 * m - 2) * 2 ^ (e - 2) := by
        gcongr
        linarith
    _ ≤ x := hlow

/-- A decimal with so low an exponent is nearer to zero than that. -/
theorem decimal_lt_of_exponent_lt {digits : Nat} {k : Int}
    (hk : k < -(400 + (digits.log2 : Int))) :
    (digits * 10 ^ k : ℚ) < 2 ^ (-1075 : Int) := by
  have hdigits : (digits : ℚ) < 2 ^ ((digits.log2 : Int) + 1) := by
    rw [← Nat.cast_succ, zpow_natCast]
    exact_mod_cast Nat.lt_log2_self
  have hten : (0 : ℚ) < 10 ^ k := by positivity
  calc (digits * 10 ^ k : ℚ) <
      2 ^ ((digits.log2 : Int) + 1) * 10 ^ k := by gcongr
    _ ≤ 10 ^ ((digits.log2 : Int) + 1) * 10 ^ k := by
        gcongr
        exact zpow_le_zpow_left₀ (by omega) (by norm_num) (by norm_num)
    _ = 10 ^ ((digits.log2 : Int) + 1 + k) := by rw [← zpow_add₀ (by norm_num)]
    _ ≤ 10 ^ (-400 : Int) := zpow_le_zpow_right₀ (by norm_num) (by omega)
    _ < 2 ^ (-1075 : Int) := by
        have hpow : 2 ^ 1075 < 10 ^ 400 := by decide +kernel
        rw [zpow_neg, zpow_neg, inv_lt_inv₀ (by positivity) (by positivity)]
        exact_mod_cast hpow

theorem ofDecimal_of_contains {digits : Nat} {k : Int}
    (hcanonical : (finite negative m e).Canonical) (hm : 0 < m)
    (h : (basin m e).Contains (digits * 10 ^ k / 2 ^ (e - 2))) :
    ofDecimal negative digits k = finite negative m e := by
  have hlt := lt_of_contains hcanonical hm h
  have hle := le_of_contains hcanonical hm h
  have hdigits : digits ≠ 0 := by
    rintro rfl
    rw [Nat.cast_zero, zero_mul] at hle
    exact absurd hle (not_le.2 (by positivity))
  have hlarge : ¬ 310 < k := by
    intro hk
    have hone : (1 : ℚ) ≤ digits := by
      exact_mod_cast Nat.one_le_iff_ne_zero.2 hdigits
    have hten : (10 : ℚ) ^ (311 : Int) ≤ 10 ^ k :=
      zpow_le_zpow_right₀ (by norm_num) (by omega)
    have hprod : (10 : ℚ) ^ k ≤ digits * 10 ^ k :=
      le_mul_of_one_le_left (by positivity) hone
    linarith
  have hsmall : ¬ k < -(400 + (digits.log2 : Int)) := by
    intro hk
    have := decimal_lt_of_exponent_lt hk
    linarith
  rw [ofDecimal, if_neg hdigits, if_neg hlarge, if_neg hsmall]
  split
  next hnonneg =>
      refine ofRatio_of_contains hcanonical hm (by decide) ?_
      have hpow : ((10 ^ k.toNat : Nat) : ℚ) = 10 ^ k := by
        rw [Nat.cast_pow, ← zpow_natCast, Int.toNat_of_nonneg hnonneg]
        rfl
      rwa [Nat.pow_eq, Nat.cast_mul, hpow, Nat.cast_one, div_one]
  next hneg =>
      refine ofRatio_of_contains hcanonical hm (Nat.pow_pos (by decide)) ?_
      have hpow : ((10 ^ (-k).toNat : Nat) : ℚ) = (10 ^ k)⁻¹ := by
        rw [Nat.cast_pow, ← zpow_natCast, Int.toNat_of_nonneg (by omega),
          ← zpow_neg]
        rfl
      rwa [Nat.pow_eq, hpow, div_inv_eq_mul]

end Double

namespace Decimal

variable {tieUp : Bool} {m : Nat} {e k : Int}

theorem pow_toNat_div (base : Nat) (hbase : 0 < base) (z : Int) :
    ((Nat.pow base z.toNat : Nat) : ℚ) / (Nat.pow base (-z).toNat : Nat) =
      base ^ z := by
  have hbaseRat : (base : ℚ) ≠ 0 := by exact_mod_cast hbase.ne'
  rw [Nat.pow_eq, Nat.pow_eq, Nat.cast_pow, Nat.cast_pow, ← zpow_natCast,
    ← zpow_natCast, ← zpow_sub₀ hbaseRat]
  congr 1
  omega

theorem commonScale_pos (e k : Int) :
    0 < (commonScale e k).1 ∧ 0 < (commonScale e k).2 := by
  unfold commonScale
  constructor
  · exact Nat.mul_pos (Nat.pow_pos (by decide)) (Nat.pow_pos (by decide))
  · exact Nat.mul_pos (Nat.pow_pos (by decide)) (Nat.pow_pos (by decide))

/-- The two scale factors are to each other as grid step and quarter unit. -/
theorem commonScale_value (e k : Int) :
    ((commonScale e k).2 : ℚ) / (commonScale e k).1 = 10 ^ k / 2 ^ (e - 2) := by
  have hten := pow_toNat_div 10 (by decide) k
  have htwo := pow_toNat_div 2 (by decide) (e - 2)
  rw [Nat.cast_ofNat] at hten htwo
  unfold commonScale
  simp only [Nat.cast_mul]
  rw [← hten, ← htwo, div_div_div_eq,
    mul_comm ((Nat.pow 2 (e - 2).toNat : Nat) : ℚ)]

theorem admits_of_neighbour? {d : Nat} (h : neighbour? tieUp m e k = some d) :
    (basin m e).admits (commonScale e k).1 (commonScale e k).2 d = true := by
  unfold neighbour? at h
  simp only at h
  split at h
  next hlower hupper =>
      split at h
      · exact Option.some.inj h ▸ hlower
      · split at h
        · exact Option.some.inj h ▸ hupper
        · split at h
          · exact Option.some.inj h ▸ hupper
          · exact Option.some.inj h ▸ hlower
  next hlower _ => exact Option.some.inj h ▸ hlower
  next _ hupper => exact Option.some.inj h ▸ hupper
  next => contradiction

theorem contains_of_neighbour? {d : Nat} (h : neighbour? tieUp m e k = some d) :
    (basin m e).Contains (d * 10 ^ k / 2 ^ (e - 2)) := by
  have hcontains := Basin.contains_of_admits (commonScale_pos e k).1
    (admits_of_neighbour? h)
  rwa [mul_div_assoc, commonScale_value, ← mul_div_assoc] at hcontains

/-- The upper neighbour lies in the interval if the grid is fine enough. -/
theorem admits_upper {unit step : Nat} (hstep : 0 < step)
    (hfine : step < 2 * unit) :
    (basin m e).admits unit step ((basin m e).middle * unit / step + 1) =
      true := by
  have habove : 4 * m * unit < (4 * m * unit / step + 1) * step := by
    rw [Nat.mul_comm _ step]
    exact Nat.lt_mul_div_succ _ hstep
  have hnear : (4 * m * unit / step + 1) * step ≤ 4 * m * unit + step := by
    rw [Nat.add_mul, Nat.one_mul]
    exact Nat.add_le_add_right (Nat.div_mul_le_self _ _) _
  have hlow : (basin m e).low * unit ≤ 4 * m * unit :=
    Nat.mul_le_mul_right unit (Nat.sub_le _ _)
  have hhigh : (basin m e).high * unit = 4 * m * unit + 2 * unit :=
    Nat.add_mul _ _ _
  have hmiddle : (basin m e).middle = 4 * m := rfl
  rw [hmiddle]
  unfold Basin.admits
  split
  · rw [Bool.and_eq_true, decide_eq_true_iff, decide_eq_true_iff]
    omega
  · rw [Bool.and_eq_true, decide_eq_true_iff, decide_eq_true_iff]
    omega

theorem exists_neighbour? (tieUp : Bool)
    (hfine : (10 : ℚ) ^ k < 2 * 2 ^ (e - 2)) :
    ∃ d, neighbour? tieUp m e k = some d := by
  obtain ⟨hunit, hstep⟩ := commonScale_pos e k
  have hunitRat : (0 : ℚ) < (commonScale e k).1 := by exact_mod_cast hunit
  have hquarter : (0 : ℚ) < 2 ^ (e - 2) := by positivity
  have hfineNat : (commonScale e k).2 < 2 * (commonScale e k).1 := by
    rw [← div_lt_iff₀ hquarter, ← commonScale_value,
      div_lt_iff₀ hunitRat] at hfine
    exact_mod_cast hfine
  have hupper := admits_upper (m := m) (e := e) hstep hfineNat
  unfold neighbour?
  simp only [hupper]
  split
  next =>
      split
      · exact ⟨_, rfl⟩
      · split
        · exact ⟨_, rfl⟩
        · exact ⟨_, rfl⟩
  next h => contradiction
  next => exact ⟨_, rfl⟩
  next h => contradiction

/-- The search ends with a neighbour if one of its grids has one. -/
theorem search_neighbour {steps i : Nat} (hi : i < steps)
    (h : ∃ d, neighbour? tieUp m e (k - i) = some d) :
    neighbour? tieUp m e (search tieUp m e steps k).exponent =
      some (search tieUp m e steps k).digits := by
  induction steps generalizing k i with
  | zero => omega
  | succ steps ih =>
      rw [search]
      cases hhere : neighbour? tieUp m e k with
      | some d => exact hhere
      | none =>
          cases i with
          | zero =>
              obtain ⟨d, hd⟩ := h
              rw [Nat.cast_zero, sub_zero, hhere] at hd
              contradiction
          | succ i =>
              apply ih (i := i) (by omega)
              rwa [sub_sub, add_comm 1, ← Nat.cast_succ]

/-- The fraction by which the search estimates decimal exponents is good to a
factor of two. -/
theorem ten_zpow_le {t k : Int} (ht : t ≤ 100000)
    (hk : 100000 * k ≤ 30103 * t) :
    (10 : ℚ) ^ k ≤ 2 ^ (t + 1) := by
  have hlower : (2 : ℚ) ^ (100000 : Int) ≤ 10 ^ (30103 : Int) := by
    have hpow : 2 ^ 100000 ≤ 10 ^ 30103 := by decide +kernel
    exact_mod_cast hpow
  have hupper : (10 : ℚ) ^ (30103 : Int) ≤ 2 ^ (100001 : Int) := by
    have hpow : 10 ^ 30103 ≤ 2 ^ 100001 := by decide +kernel
    exact_mod_cast hpow
  have hestimate : ((10 : ℚ) ^ (30103 : Int)) ^ t ≤ 2 ^ (100000 * (t + 1)) := by
    rcases le_total 0 t with hnonneg | hneg
    · calc ((10 : ℚ) ^ (30103 : Int)) ^ t ≤ (2 ^ (100001 : Int)) ^ t :=
            zpow_le_zpow_left₀ hnonneg (by positivity) hupper
        _ = 2 ^ (100001 * t) := (zpow_mul _ _ _).symm
        _ ≤ 2 ^ (100000 * (t + 1)) :=
            zpow_le_zpow_right₀ (by norm_num) (by omega)
    · have hinverse : ((2 : ℚ) ^ (100000 : Int)) ^ (-t) ≤
          (10 ^ (30103 : Int)) ^ (-t) :=
        zpow_le_zpow_left₀ (by omega) (by positivity) hlower
      calc ((10 : ℚ) ^ (30103 : Int)) ^ t =
          ((10 ^ (30103 : Int)) ^ (-t))⁻¹ := by
            rw [zpow_neg, inv_inv]
        _ ≤ ((2 ^ (100000 : Int)) ^ (-t))⁻¹ :=
            inv_anti₀ (by positivity) hinverse
        _ = 2 ^ (100000 * t) := by rw [zpow_neg, inv_inv, ← zpow_mul]
        _ ≤ 2 ^ (100000 * (t + 1)) :=
            zpow_le_zpow_right₀ (by norm_num) (by omega)
  have hpowers : ((10 : ℚ) ^ k) ^ 100000 ≤ (2 ^ (t + 1)) ^ 100000 := by
    have hswap : ∀ (b : ℚ) (z : Int), (b ^ z) ^ 100000 = b ^ (100000 * z) := by
      intro b z
      rw [← zpow_natCast, ← zpow_mul, mul_comm]
      rfl
    rw [hswap, hswap]
    refine le_trans (zpow_le_zpow_right₀ (by norm_num) hk) ?_
    rw [zpow_mul]
    exact hestimate
  exact le_of_pow_le_pow_left₀ (by decide) (by positivity) hpowers

/-- The last grid of the search is finer than the interval is wide. -/
theorem last_grid_fine (hm : 0 < m) (hend : m < Double.significandEnd)
    (hmax : e ≤ Double.maxExponent) :
    (10 : ℚ) ^ (coarsest m e - 23) < 2 * 2 ^ (e - 2) := by
  have hlog : (m.log2 : Int) ≤ 52 := by
    have hlt : m.log2 < 53 := (Nat.log2_lt hm.ne').2 hend
    omega
  unfold Double.maxExponent at hmax
  have hestimate : (10 : ℚ) ^ (coarsest m e - 1) ≤
      2 ^ ((m.log2 : Int) + 1 + e + 1) := by
    apply ten_zpow_le
    · omega
    · unfold coarsest
      omega
  calc (10 : ℚ) ^ (coarsest m e - 23) =
      10 ^ (coarsest m e - 1) * 10 ^ (-22 : Int) := by
        rw [← zpow_add₀ (by norm_num)]
        congr 1
        ring
    _ ≤ 2 ^ ((m.log2 : Int) + 1 + e + 1) * 10 ^ (-22 : Int) := by gcongr
    _ ≤ 2 ^ (e + 54) * 10 ^ (-22 : Int) := by
        have hexponent : (2 : ℚ) ^ ((m.log2 : Int) + 1 + e + 1) ≤
            2 ^ (e + 54) :=
          zpow_le_zpow_right₀ (by norm_num) (by omega)
        gcongr
    _ = 2 ^ (56 : Int) * 10 ^ (-22 : Int) * 2 ^ (e - 2) := by
        rw [Double.zpow_quarter]
        ring
    _ < 2 * 2 ^ (e - 2) := by
        gcongr
        norm_num

/-- The shortest decimal lies in the interval around the number. -/
theorem shortest_contains {negative : Bool} (tieUp : Bool)
    (hcanonical : (Double.finite negative m e).Canonical) (hm : 0 < m) :
    (basin m e).Contains
      ((shortest tieUp m e).digits * 10 ^ (shortest tieUp m e).exponent / 2 ^
        (e - 2)) := by
  obtain ⟨hend, -, hmax, -⟩ := hcanonical
  apply contains_of_neighbour?
  apply search_neighbour (i := 23) (by decide)
  exact exists_neighbour? tieUp (last_grid_fine hm hend hmax)

theorem shortest_digits_pos {negative : Bool} (tieUp : Bool)
    (hcanonical : (Double.finite negative m e).Canonical) (hm : 0 < m) :
    0 < (shortest tieUp m e).digits := by
  rcases Nat.eq_zero_or_pos (shortest tieUp m e).digits with hzero | hpos
  · have hle :=
      Double.le_of_contains hcanonical hm
        (shortest_contains tieUp hcanonical hm)
    rw [hzero, Nat.cast_zero, zero_mul] at hle
    exact absurd hle (not_le.2 (by positivity))
  · exact hpos

end Decimal

end Stencil

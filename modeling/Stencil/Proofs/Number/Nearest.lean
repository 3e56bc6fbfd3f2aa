/-
The number of the format nearest to a rational number.  Rounding gives it, and
of two that are equally near the one with the even significand.  Two neighbours
are not both even, so the rational number alone decides what it is rounded to.
-/
import Stencil.Proofs.Number.Truncation

namespace Stencil.Double

variable {num den : Nat} {q r s : ℚ} {x y : Double}

/-- The rational numbers of the format. -/
def Representable (r : ℚ) : Prop :=
  ∃ x : Double, x.Canonical ∧ x.value? = some r

/-- The significand is even. -/
def IsEven : Double → Prop
  | finite _ m _ => m % 2 = 0
  | _ => False

/-- The other numbers of the format are farther from the rational number, or as
far, and then this one has the even significand. -/
def IsNearest (x : Double) (q : ℚ) : Prop :=
  x.Canonical ∧ ∃ r, x.value? = some r ∧
    ∀ s, Representable s → s ≠ r → |q - r| < |q - s| ∨ |q - r| = |q - s| ∧
      x.IsEven

theorem representable_zero : Representable 0 :=
  ⟨zero false, zero_canonical false, by simp [zero, value?]⟩

section Integers

variable {k : Nat}

theorem nearest_roundHalfEven (num : Nat) (hden : 0 < den) :
    Nearest (roundHalfEven num den) ((num : ℚ) / den) := by
  have hdenPos : (0 : ℚ) < den := by exact_mod_cast hden
  have hdiv : (den * (num / den : Nat) + (num % den : Nat) : ℚ) = num := by
    exact_mod_cast Nat.div_add_mod num den
  have hmod : ((num % den : Nat) : ℚ) < den := by
    exact_mod_cast Nat.mod_lt num hden
  have hrest : (0 : ℚ) ≤ (num % den : Nat) := Nat.cast_nonneg _
  unfold Nearest
  rw [le_div_iff₀ hdenPos, div_le_iff₀ hdenPos, lt_div_iff₀ hdenPos,
    div_lt_iff₀ hdenPos]
  unfold roundHalfEven
  simp only
  generalize num % den = rest at hdiv hmod hrest ⊢
  generalize num / den = quotient at hdiv ⊢
  rcases lt_trichotomy (2 * rest) den with hbelow | hmiddle | habove
  · have hbelowRat : (2 * rest : ℚ) < den := by exact_mod_cast hbelow
    rw [if_pos hbelow]
    exact ⟨by linarith, by linarith, fun _ => ⟨by linarith, by linarith⟩⟩
  · have hmiddleRat : (2 * rest : ℚ) = den := by exact_mod_cast hmiddle
    rw [if_neg (by omega), if_neg (by omega)]
    rcases Nat.mod_two_eq_zero_or_one quotient with heven | hodd
    · rw [heven, Nat.add_zero]
      exact ⟨by linarith, by linarith, fun hk => absurd hk (by omega)⟩
    · rw [hodd]
      push_cast
      exact ⟨by linarith, by linarith, fun hk => absurd hk (by omega)⟩
  · have haboveRat : (den : ℚ) < 2 * rest := by exact_mod_cast habove
    rw [if_neg (by omega), if_pos habove]
    push_cast
    exact ⟨by linarith, by linarith, fun _ => ⟨by linarith, by linarith⟩⟩

/-- No other integer is nearer, and none is as near unless the nearest is
even. -/
theorem Nearest.abs_sub (h : Nearest k q) {j : Int} (hj : j ≠ k) :
    |q - k| < |q - j| ∨ |q - k| = |q - j| ∧ k % 2 = 0 := by
  obtain ⟨hlow, hhigh, hodd⟩ := h
  have hnear : |q - k| ≤ 1 / 2 := abs_le.2 ⟨by linarith, by linarith⟩
  have hfar : 1 / 2 ≤ |q - j| := by
    rcases lt_or_gt_of_ne hj with hlt | hgt
    · have hstep : (j : ℚ) + 1 ≤ k := by exact_mod_cast hlt
      exact le_trans (by linarith) (le_abs_self _)
    · have hstep : (k : ℚ) + 1 ≤ j := by exact_mod_cast hgt
      exact le_trans (by linarith) (neg_le_abs _)
  rcases Nat.mod_two_eq_zero_or_one k with heven | hk
  · rcases lt_or_eq_of_le (hnear.trans hfar) with hlt | heq
    · exact Or.inl hlt
    · exact Or.inr ⟨heq, heven⟩
  · obtain ⟨hlow, hhigh⟩ := hodd hk
    exact Or.inl (lt_of_lt_of_le (abs_lt.2 ⟨by linarith, by linarith⟩) hfar)

/-- On a grid the distance is counted in steps. -/
theorem abs_sub_steps (q j : ℚ) (g : Int) :
    |q - j * 2 ^ g| = |q / 2 ^ g - j| * 2 ^ g := by
  have hstep : (0 : ℚ) < 2 ^ g := by positivity
  rw [← abs_of_pos hstep, ← abs_mul, abs_of_pos hstep, sub_mul,
    div_mul_cancel₀ _ hstep.ne']

/-- No other number of the grid is nearer. -/
theorem Nearest.abs_sub_grid {g : Int} (h : Nearest k (q / 2 ^ g)) {j : Int}
    (hj : j ≠ k) :
    |q - k * 2 ^ g| < |q - j * 2 ^ g| ∨ |q - k * 2 ^ g| = |q - j * 2 ^ g| ∧
      k % 2 = 0 := by
  have hstep : (0 : ℚ) < 2 ^ g := by positivity
  rw [abs_sub_steps, abs_sub_steps]
  rcases h.abs_sub hj with hcloser | ⟨hequal, heven⟩
  · exact Or.inl (mul_lt_mul_of_pos_right hcloser hstep)
  · exact Or.inr ⟨by rw [hequal], heven⟩

/-- From what lies after a power of two, the grid is nearer than anything before
that power. -/
theorem Nearest.abs_sub_lt {g : Int} {f : Nat} (h : Nearest k (q / 2 ^ g))
    (hq : 2 ^ (g + f) ≤ q) (hs : s < 2 ^ (g + f)) :
    |q - k * 2 ^ g| < |q - s| := by
  have hpower : ((2 ^ f : Int) * 2 ^ g : ℚ) = 2 ^ (g + f) := by
    rw [add_comm, zpow_add₀ (by norm_num), zpow_natCast]
    norm_cast
  have hgrid : |q - k * 2 ^ g| ≤ |q - (2 ^ f : Int) * 2 ^ g| := by
    by_cases hj : (2 ^ f : Int) = k
    · rw [hj]
      exact le_rfl
    · rcases h.abs_sub_grid hj with hcloser | ⟨hequal, -⟩
      · exact hcloser.le
      · exact hequal.le
  rw [hpower, abs_of_nonneg (sub_nonneg.2 hq)] at hgrid
  calc |q - k * 2 ^ g| ≤ q - 2 ^ (g + f) := hgrid
    _ < q - s := by linarith
    _ ≤ |q - s| := le_abs_self _

end Integers

theorem value_lt {negative : Bool} {m : Nat} {e g : Int}
    (h : (finite negative m e).Canonical) (he : e < g) :
    (m * 2 ^ e : ℚ) < 2 ^ (g + 52) := by
  have hend : (m : ℚ) < 2 ^ (53 : Int) := by exact_mod_cast h.1
  calc (m * 2 ^ e : ℚ) < 2 ^ (53 : Int) * 2 ^ e := by gcongr
    _ = 2 ^ (e + 53) := by rw [← zpow_add₀ (by norm_num), add_comm]
    _ ≤ 2 ^ (g + 52) := zpow_le_zpow_right₀ (by norm_num) (by omega)

theorem value_eq_steps (m : Nat) {e g : Int} (he : g ≤ e) :
    (m * 2 ^ e : ℚ) = (m * 2 ^ (e - g).toNat : Nat) * 2 ^ g := by
  rw [Nat.cast_mul, mul_assoc]
  congr 1
  rw [← Nat.pow_eq, cast_pow_toNat (by omega), ← zpow_add₀ (by norm_num),
    sub_add_cancel]

/-- A number of the format lies on the grid, or it is a number of a finer one
and small. -/
theorem Representable.steps_or_lt (h : Representable s) (g : Int) :
    (∃ j : Int, s = j * 2 ^ g) ∨ minExponent < g ∧ s < 2 ^ (g + 52) := by
  obtain ⟨x, hx, hs⟩ := h
  cases x with
  | nan => contradiction
  | infinite negative => contradiction
  | finite negative m e =>
      obtain rfl := Option.some.inj hs
      rcases le_or_gt g e with hcoarse | hfine
      · left
        rw [value_eq_steps m hcoarse]
        cases negative with
        | false => exact ⟨(m * 2 ^ (e - g).toNat : Nat), by simp⟩
        | true => exact ⟨-(m * 2 ^ (e - g).toNat : Nat), by simp⟩
      · right
        refine ⟨lt_of_le_of_lt hx.2.1 hfine, ?_⟩
        have hlt := value_lt hx hfine
        cases negative with
        | false => exact hlt
        | true =>
            have hnonneg : (0 : ℚ) ≤ m * 2 ^ e := by positivity
            exact lt_of_le_of_lt (by rw [if_pos rfl]; linarith) hlt

theorem isEven_assemble {k : Nat} {g : Int} (hk : k % 2 = 0)
    (h : (assemble false k g).value? = some r) :
    (assemble false k g).IsEven := by
  rcases assemble_cases false k g with
    ⟨-, hcase⟩ | ⟨-, -, hcase⟩ | ⟨-, -, hcase⟩
  all_goals rw [hcase] at h ⊢
  · contradiction
  · exact hk
  · exact (by decide : leadingBit % 2 = 0)

/-- The step at which a fraction is rounded is nearest to it. -/
theorem nearest_scaled (num : Nat) (hden : 0 < den) (g : Int) :
    Nearest (roundHalfEven (scaleDown num den g).1 (scaleDown num den g).2)
      (num / den / 2 ^ g) := by
  have hscaled : 0 < (scaleDown num den g).2 := scaleDown_den_pos hden g
  rw [← scaleDown_value]
  exact nearest_roundHalfEven _ hscaled

/-- A fraction is rounded to the number nearest to it, if it is not beyond them
all. -/
theorem isNearest_ofRatio (hden : 0 < den)
    (h : (ofRatio false num den).value? = some r) :
    (ofRatio false num den).IsNearest (num / den) := by
  refine ⟨ofRatio_canonical false num hden, r, h, fun s hs hne => ?_⟩
  rcases Nat.eq_zero_or_pos num with rfl | hnum
  · obtain rfl : (0 : ℚ) = r := by simpa [ofRatio, zero, value?] using h
    left
    simpa using hne
  · have hnear := nearest_scaled num hden (gridExponent num den)
    rw [ofRatio_of_pos false hnum] at h ⊢
    obtain rfl := value?_assemble h
    rcases hs.steps_or_lt (gridExponent num den) with ⟨j, rfl⟩ | ⟨hmin, hlt⟩
    · refine (hnear.abs_sub_grid ?_).imp_right fun hfar =>
        ⟨hfar.1, isEven_assemble hfar.2 h⟩
      rintro rfl
      exact hne (by push_cast; rfl)
    · -- the fraction has all 53 bits on its grid, and the other number lies
      -- below them
      left
      obtain ⟨hle, -⟩ := floorLog2_le hnum hden
      have hgrid : gridExponent num den + (52 : Nat) = floorLog2 num den := by
        unfold gridExponent at hmin ⊢
        omega
      rw [← hgrid] at hle
      exact hnear.abs_sub_lt hle hlt

theorem exists_value_of_isFinite (h : x.isFinite = true) :
    ∃ r, x.value? = some r := by
  cases x with
  | nan => contradiction
  | infinite negative => contradiction
  | finite negative m e => exact ⟨_, rfl⟩

/-- Below the coarsest grid there is room for a carry. -/
theorem isFinite_assemble (negative : Bool) (m : Nat) {e : Int}
    (he : e < maxExponent) :
    (assemble negative m e).isFinite = true := by
  rcases assemble_cases negative m e with
    ⟨hmax, -⟩ | ⟨-, -, hcase⟩ | ⟨-, -, hcase⟩
  · omega
  · rw [hcase]
    rfl
  · rw [hcase]
    rfl

/-- A fraction within the range is rounded to a finite number. -/
theorem exists_value_ofRatio (hnum : 0 < num) (hden : 0 < den)
    (hlt : (num / den : ℚ) < 2 ^ (1023 : Int)) :
    ∃ r, (ofRatio false num den).value? = some r := by
  have hfloor := two_zpow_lt_iff.1 ((floorLog2_le hnum hden).1.trans_lt hlt)
  have hgrid : gridExponent num den < maxExponent := by
    unfold gridExponent minExponent maxExponent
    omega
  apply exists_value_of_isFinite
  rw [ofRatio_of_pos false hnum]
  exact isFinite_assemble false _ hgrid

/-- All 53 bits of a number are used unless it lies on the finest grid. -/
theorem le_value {negative : Bool} {m : Nat} {e : Int}
    (h : (finite negative m e).Canonical) (he : minExponent < e) :
    (2 : ℚ) ^ (e + 52) ≤ m * 2 ^ e := by
  have hlead : (leadingBit : ℚ) ≤ m := by
    rcases h.2.2.2 with hlead | heq
    · exact_mod_cast hlead
    · omega
  calc (2 : ℚ) ^ (e + 52) = leadingBit * 2 ^ e := by
        rw [add_comm, zpow_add₀ (by norm_num)]
        norm_num [leadingBit]
    _ ≤ m * 2 ^ e := by gcongr

/-- A number that is not below zero is its own magnitude. -/
theorem exists_finite_of_nonneg (h : x.value? = some r) (hr : 0 ≤ r) :
    ∃ negative m e, x = finite negative m e ∧ r = m * 2 ^ e ∧
      (0 < r → negative = false) := by
  cases x with
  | nan => contradiction
  | infinite negative => contradiction
  | finite negative m e =>
      obtain rfl := Option.some.inj h
      have hnonneg : (0 : ℚ) ≤ m * 2 ^ e := by positivity
      refine ⟨negative, m, e, rfl, ?_⟩
      cases negative with
      | false => exact ⟨rfl, fun _ => rfl⟩
      | true =>
          rw [if_pos rfl] at hr ⊢
          exact ⟨by linarith, fun hpos => absurd hpos (by linarith)⟩

/-- A positive number has one spelling. -/
theorem eq_of_value (hx : x.Canonical) (hy : y.Canonical)
    (hxr : x.value? = some r) (hyr : y.value? = some r) (hr : 0 < r) :
    x = y := by
  obtain ⟨negative, m, e, rfl, hm, hsign⟩ := exists_finite_of_nonneg hxr hr.le
  obtain ⟨negative', m', e', rfl, hm', hsign'⟩ :=
    exists_finite_of_nonneg hyr hr.le
  rcases lt_trichotomy e e' with hlt | rfl | hgt
  · have hbelow := value_lt hx hlt
    have habove := le_value hy (lt_of_le_of_lt hx.2.1 hlt)
    linarith
  · have hequal : (m : ℚ) = m' :=
      mul_right_cancel₀ (by positivity) (hm.symm.trans hm')
    rw [hsign hr, hsign' hr, Nat.cast_injective hequal]
  · have hbelow := value_lt hy hgt
    have habove := le_value hx (lt_of_le_of_lt hy.2.1 hgt)
    linarith

/-- The number after an even one is odd, so there is one between two even
ones. -/
theorem exists_between (hx : x.Canonical) (hy : y.Canonical)
    (hxr : x.value? = some r) (hys : y.value? = some s) (hxeven : x.IsEven)
    (hyeven : y.IsEven) (hr : 0 ≤ r) (hlt : r < s) :
    ∃ t, Representable t ∧ r < t ∧ t < s := by
  obtain ⟨negative, m, e, rfl, rfl, -⟩ := exists_finite_of_nonneg hxr hr
  obtain ⟨negative', m', e', rfl, rfl, -⟩ :=
    exists_finite_of_nonneg hys (hr.trans hlt.le)
  have hstep : (0 : ℚ) < 2 ^ e := by positivity
  obtain ⟨hend, hmin, hmax, hleading⟩ := id hx
  have hnext : m + 1 < significandEnd := by
    have hm : m % 2 = 0 := hxeven
    unfold significandEnd at hend ⊢
    omega
  refine ⟨(m + 1 : Nat) * 2 ^ e,
    ⟨finite false (m + 1) e, ⟨hnext, hmin, hmax, ?_⟩, rfl⟩, ?_, ?_⟩
  · exact hleading.imp_left Nat.le_succ_of_le
  · push_cast
    linarith
  · by_contra hle
    rw [not_lt] at hle
    rcases le_or_gt e e' with hcoarse | hfine
    · rw [value_eq_steps m' hcoarse] at hlt hle
      have hlow : m < m' * 2 ^ (e' - e).toNat := by
        exact_mod_cast lt_of_mul_lt_mul_right hlt hstep.le
      have hhigh : m' * 2 ^ (e' - e).toNat ≤ m + 1 := by
        exact_mod_cast le_of_mul_le_mul_right hle hstep
      have heven : m' * 2 ^ (e' - e).toNat % 2 = 0 := by
        have hm' : m' % 2 = 0 := hyeven
        rw [Nat.mul_mod, hm', Nat.zero_mul, Nat.zero_mod]
      have hm : m % 2 = 0 := hxeven
      omega
    · have hbelow := value_lt hy hfine
      have habove := le_value hx (lt_of_le_of_lt hy.2.1 hfine)
      linarith

namespace IsNearest

theorem representable (h : IsNearest x q) (hr : x.value? = some r) :
    Representable r :=
  ⟨x, h.1, hr⟩

theorem closer (h : IsNearest x q) (hr : x.value? = some r)
    (hs : Representable s) (hne : s ≠ r) :
    |q - r| < |q - s| ∨ |q - r| = |q - s| ∧ x.IsEven := by
  obtain ⟨-, r', hr', hcloser⟩ := h
  obtain rfl := Option.some.inj (hr'.symm.trans hr)
  exact hcloser s hs hne

theorem abs_sub_le (h : IsNearest x q) (hr : x.value? = some r)
    (hs : Representable s) :
    |q - r| ≤ |q - s| := by
  by_cases heq : s = r
  · rw [heq]
  · rcases h.closer hr hs heq with hlt | ⟨hequal, -⟩
    · exact hlt.le
    · exact hequal.le

theorem nonneg (h : IsNearest x q) (hr : x.value? = some r) (hq : 0 ≤ q) :
    0 ≤ r := by
  by_contra hneg
  rw [not_le] at hneg
  have hle := h.abs_sub_le hr representable_zero
  rw [sub_zero, abs_of_nonneg hq, abs_of_nonneg (by linarith)] at hle
  linarith

theorem value_le (hx : IsNearest x q) (hy : IsNearest y q)
    (hr : x.value? = some r) (hs : y.value? = some s) (hq : 0 ≤ q) : s ≤ r := by
  refine not_lt.1 fun hlt => ?_
  have hxs := hx.abs_sub_le hr (hy.representable hs)
  have hyr := hy.abs_sub_le hs (hx.representable hr)
  have hequal : |q - r| = |q - s| := le_antisymm hxs hyr
  have hxeven : x.IsEven := by
    rcases hx.closer hr (hy.representable hs) hlt.ne' with hcloser | ⟨-, heven⟩
    · linarith
    · exact heven
  have hyeven : y.IsEven := by
    rcases hy.closer hs (hx.representable hr) hlt.ne with hcloser | ⟨-, heven⟩
    · linarith
    · exact heven
  obtain ⟨t, ht, hrt, hts⟩ :=
    exists_between hx.1 hy.1 hr hs hxeven hyeven (hx.nonneg hr hq) hlt
  -- the rational number is in the middle of the two, so what lies between them
  -- is nearer
  have hmiddle : q - r = s - q := by
    rcases abs_eq_abs.1 hequal with hsame | hopposite
    · linarith
    · linarith
  have hnearer : |q - t| < q - r := abs_lt.2 ⟨by linarith, by linarith⟩
  have hxt := hx.abs_sub_le hr ht
  rw [abs_of_pos (by linarith)] at hxt
  linarith

/-- Only one number is nearest. -/
theorem unique (hx : IsNearest x q) (hy : IsNearest y q)
    (hr : x.value? = some r) (hpos : 0 < r) (hq : 0 ≤ q) : x = y := by
  obtain ⟨-, s, hs, -⟩ := id hy
  obtain rfl : r = s :=
    le_antisymm (hy.value_le hx hs hr hq) (hx.value_le hy hr hs hq)
  exact eq_of_value hx.1 hy.1 hr hs hpos

end IsNearest

end Stencil.Double

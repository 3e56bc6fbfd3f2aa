/-
Bounds from digits.  A declaration reads digits as an integer of 64 bits or else
as a numeral.  A schema in JSON gets them from a reader that has already chosen
between integers and doubles.  Both ways change from integers to doubles at the
same number, and they round alike.
-/
import Stencil.Proofs.Json.ReadBack
import Stencil.Proofs.Number.IntegerText
import Stencil.Proofs.Number.Nearest
import Stencil.Schema.Exchange

namespace Stencil.Bound

/-- The bound that stands for a whole number: the number itself as far as
integers of 64 bits reach, and from there on the double nearest to it. -/
inductive StandsFor : Bound → Nat → Prop where
  | exact {n : Nat} (small : n < 2 ^ 63) : StandsFor (integer n) n
  | rounded {n : Nat} {x : Double} (large : 2 ^ 63 ≤ n) (near : x.IsNearest n) :
      StandsFor (float x) n

/-- The bound that a whole number is read as. -/
def ofNat (n : Nat) : Bound :=
  if n < 2 ^ 63 then integer n else float (Double.ofRatio false n 1)

variable {n : Nat} {literal : String} {value : Json} {bound : Bound}

theorem ofNat_of_lt (hn : n < 2 ^ 63) : ofNat n = integer n :=
  if_pos hn

theorem ofNat_of_le (hn : 2 ^ 63 ≤ n) :
    ofNat n = float (Double.ofRatio false n 1) :=
  if_neg (not_lt.2 hn)

theorem ofLiteral?_digits (h : Json.WholeDigits literal.toList) :
    ofLiteral? literal =
      some (ofNat (Nat.ofDigitChars 10 literal.toList 0)) := by
  obtain ⟨hne, hdigits, -⟩ := h
  have hisDigits := Numeral.isDigits_iff.2 ⟨hne, hdigits⟩
  have hread :=
    Numeral.readDouble?_of_takeSign
      (Numeral.takeSign_digits hne hdigits) hne hdigits
  unfold ofLiteral?
  simp only [hisDigits, Bool.true_and, Numeral.digitsValue_eq_ofDigitChars,
    Numeral.inInt64_natCast, decide_eq_true_eq, hread, Option.map_some]
  rw [ofNat, apply_ite some]

/-- The reader of JSON keeps the numbers up to twice the range of a bound as
integers.  The later half of them becomes doubles here. -/
theorem ofJson?_integerLiteral
    (h : Json.ofIntegerLiteral? false n = some value) :
    ofJson? value = some (ofNat n) := by
  rcases Json.ofIntegerLiteral?_cases h with
    ⟨hsign, -⟩ | ⟨-, rfl⟩ | ⟨hlarge, -, rfl⟩
  · contradiction
  · have hofInt : Double.ofInt n = Double.ofRatio false n 1 := by
      rw [Double.ofInt, Int.natAbs_natCast, decide_eq_false (by omega)]
    simp only [Double.signed_false, ofJson?, Numeral.inInt64_natCast,
      decide_eq_true_eq, hofInt]
    rfl
  · rw [Double.signed_false, Numeral.inWord64_natCast,
      decide_eq_false_iff_not] at hlarge
    rw [ofNat_of_le (by omega)]
    rfl

/-- What the reader of JSON accepts is not rounded to infinity. -/
theorem exists_value_of_ofIntegerLiteral?
    (h : Json.ofIntegerLiteral? false n = some value) (hn : 0 < n) :
    ∃ r, (Double.ofRatio false n 1).value? = some r := by
  rcases Json.ofIntegerLiteral?_cases h with
    ⟨hsign, -⟩ | ⟨hword, -⟩ | ⟨-, hfinite, -⟩
  · contradiction
  · rw [Double.signed_false, Numeral.inWord64_natCast,
      decide_eq_true_iff] at hword
    apply Double.exists_value_ofRatio hn (by decide)
    rw [Nat.cast_one, div_one]
    calc (n : ℚ) < 2 ^ (64 : Int) := by exact_mod_cast hword
      _ ≤ 2 ^ (1023 : Int) := zpow_le_zpow_right₀ (by norm_num) (by norm_num)
  · exact Double.exists_value_of_isFinite hfinite

/-- No other bound stands for a number than the one that it is read as. -/
theorem standsFor_iff (h : Json.ofIntegerLiteral? false n = some value) :
    bound.StandsFor n ↔ bound = ofNat n := by
  rcases Nat.lt_or_ge n (2 ^ 63) with hsmall | hlarge
  · rw [ofNat_of_lt hsmall]
    constructor
    · intro hbound
      cases hbound with
      | exact => rfl
      | rounded hlarge => omega
    · rintro rfl
      exact .exact hsmall
  · obtain ⟨r, hr⟩ := exists_value_of_ofIntegerLiteral? h (by omega)
    have hnear := Double.isNearest_ofRatio (by decide) hr
    rw [Nat.cast_one, div_one] at hnear
    have hpos : 0 < r :=
      lt_of_lt_of_le (by norm_num) (Double.two_pow_le_value_whole hlarge hr)
    rw [ofNat_of_le hlarge]
    constructor
    · intro hbound
      cases hbound with
      | exact hsmall => omega
      | rounded _ hother => rw [hnear.unique hother hr hpos (Nat.cast_nonneg n)]
    · rintro rfl
      exact .rounded hlarge hnear

theorem ofLiteral?_text {n : Int} (hlow : 0 ≤ n) (hhigh : n < 2 ^ 63) :
    ofLiteral? (integer n).text = some (integer n) := by
  have hdigits : (integer n).text.toList = Nat.toDigits 10 n.natAbs := by
    rw [text, Numeral.toList_toString_int, if_neg (by omega), List.nil_append]
  have hwhole : Json.WholeDigits (integer n).text.toList := by
    rw [hdigits]
    exact Json.wholeDigits_toDigits n.natAbs
  rw [ofLiteral?_digits hwhole, hdigits, Nat.ofDigitChars_ten_toDigits,
    ofNat_of_lt (by omega), Int.natAbs_of_nonneg hlow]

/-- Digits that the reader of JSON accepts are the same bound in a declaration
and in JSON: the integer that they denote if it has 64 bits, and the double
nearest to it if it has not.  The text of an integer bound that is not negative
is read as that bound. -/
theorem ofLiteral?_eq_ofJson? :
    (∀ literal value, Json.WholeDigits literal.toList →
      Json.ofTextAsWritten? literal = some value →
      ∃ bound, ofLiteral? literal = some bound ∧ ofJson? value = some bound ∧
        ∀ other : Bound,
          other.StandsFor (Nat.ofDigitChars 10 literal.toList 0) ↔
            other = bound) ∧
    ∀ n : Int, 0 ≤ n → n < 2 ^ 63 →
      ofLiteral? (integer n).text = some (integer n) := by
  constructor
  · intro literal value hdigits hread
    have hliteral := Json.ofTextAsWritten?_whole false hdigits
    rw [if_neg Bool.false_ne_true, List.nil_append, String.ofList_toList,
      hread] at hliteral
    exact ⟨_, ofLiteral?_digits hdigits, ofJson?_integerLiteral hliteral.symm,
      fun other => standsFor_iff hliteral.symm⟩
  · intro n hlow hhigh
    exact ofLiteral?_text hlow hhigh

/-- Half a step after the integers of 64 bits end, digits are rounded back to
that end, although the reader of JSON still keeps them as an integer.  The last
integer is exact. -/
theorem ofLiteral?_eq_ofJson?_end :
    Json.WholeDigits "9223372036854776832".toList ∧
      Json.ofTextAsWritten? "9223372036854776832" =
        some (.integer 9223372036854776832) ∧
      ofLiteral? "9223372036854776832" =
        some (float (.finite false Double.leadingBit 11)) ∧
      ofJson? (.integer 9223372036854776832) =
        some (float (.finite false Double.leadingBit 11)) ∧
      (float (.finite false Double.leadingBit 11)).StandsFor
        9223372036854776832 ∧
      (0 ≤ (9223372036854775807 : Int) ∧ (9223372036854775807 : Int) < 2 ^ 63) ∧
      ofLiteral? (integer 9223372036854775807).text =
        some (integer 9223372036854775807) := by
  have hdigits : Json.WholeDigits "9223372036854776832".toList :=
    ⟨by decide, Text.forall_mem_of_all (by decide), by decide⟩
  have hread :
      Json.ofTextAsWritten? "9223372036854776832" =
        some (.integer 9223372036854776832) := rfl
  have hvalue : Nat.ofDigitChars 10 "9223372036854776832".toList 0 =
      9223372036854776832 := by
    decide +kernel
  have hrounded : ofLiteral? "9223372036854776832" =
      some (float (.finite false Double.leadingBit 11)) := by
    decide +kernel
  have hlast : 0 ≤ (9223372036854775807 : Int) ∧
      (9223372036854775807 : Int) < 2 ^ 63 := by decide
  obtain ⟨hboth, htext⟩ := ofLiteral?_eq_ofJson?
  obtain ⟨bound, hliteral, hjson, hstands⟩ := hboth _ _ hdigits hread
  obtain rfl := Option.some.inj (hliteral.symm.trans hrounded)
  rw [hvalue] at hstands
  exact ⟨hdigits, hread, hliteral, hjson, (hstands _).2 rfl, hlast,
    htext _ hlast.1 hlast.2⟩

end Stencil.Bound

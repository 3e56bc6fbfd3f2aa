/-
Decimal digits.  The digits of a number read back to it, also with zeros in
front of them, and a run of digits splits by powers of ten.
-/
import Mathlib.Algebra.Group.Nat.Defs
import Mathlib.Data.List.Induction
import Stencil.Number.Numeral
import Stencil.Proofs.Text.Runs
import Stencil.Time.Text

namespace Stencil

open Text

theorem isDigit_iff {c : Char} :
    c.isDigit = true ↔ 48 ≤ c.toNat ∧ c.toNat ≤ 57 :=
  Char.isDigit_iff_toNat

theorem isDecimal_of_isDigit {c : Char} (hc : c.isDigit = true) :
    isDecimal c = true := by
  have hlt : c.toNat < 128 := by
    have := isDigit_iff.1 hc
    omega
  rw [isDecimal, if_pos hlt, hc]

theorem isDecimal_eq_false_of_isBlank {c : Char} (hc : isBlank c = true) :
    isDecimal c = false := by
  have hcodes : ∀ n ∈ blankCodes, isDecimal (Char.ofNat n) = false := by
    decide +kernel
  have hdecimal := hcodes c.toNat (isBlank_iff_mem_blankCodes.1 hc)
  rwa [Char.ofNat_toNat] at hdecimal

theorem isBlank_eq_false_of_isDigit {c : Char} (hc : c.isDigit = true) :
    isBlank c = false := by
  cases hblank : isBlank c with
  | false => rfl
  | true =>
      rw [← isDecimal_of_isDigit hc]
      exact isDecimal_eq_false_of_isBlank hblank

theorem Double.signed_false (n : Nat) : Double.signed false n = n := rfl

theorem Double.signed_true_natAbs {z : Int} (hz : z < 0) :
    Double.signed true z.natAbs = z := by
  rw [Double.signed, if_pos rfl]
  omega

theorem Double.signed_false_natAbs {z : Int} (hz : 0 ≤ z) :
    Double.signed false z.natAbs = z := by
  rw [Double.signed, if_neg (by simp)]
  omega

namespace Numeral

theorem digitsValue_eq_ofDigitChars (cs : List Char) :
    digitsValue cs = Nat.ofDigitChars 10 cs 0 := rfl

theorem digitsValue_toDigits (n : Nat) : digitsValue (Nat.toDigits 10 n) = n :=
  Nat.ofDigitChars_ten_toDigits

theorem isDigit_of_mem_toDigits {n : Nat} :
    ∀ c ∈ Nat.toDigits 10 n, c.isDigit = true :=
  fun _ => Nat.isDigit_of_mem_toDigits (by decide) (by decide)

theorem isDigits_toDigits (n : Nat) : isDigits (Nat.toDigits 10 n) = true := by
  rw [isDigits, Bool.and_eq_true, List.all_eq_true]
  exact ⟨by simp, isDigit_of_mem_toDigits⟩

theorem digitsValue_append_zeros (cs : List Char) (n : Nat) :
    digitsValue (cs ++ List.replicate n '0') = digitsValue cs * 10 ^ n := by
  rw [digitsValue_eq_ofDigitChars, Nat.ofDigitChars_append,
    Nat.ofDigitChars_replicate_zero, ← digitsValue_eq_ofDigitChars,
    Nat.mul_comm]

theorem digitsValue_zeros_append (n : Nat) (cs : List Char) :
    digitsValue (List.replicate n '0' ++ cs) = digitsValue cs := by
  rw [digitsValue_eq_ofDigitChars, Nat.ofDigitChars_append,
    Nat.ofDigitChars_replicate_zero, Nat.mul_zero,
    ← digitsValue_eq_ofDigitChars]

theorem digitsValue_lt {cs : List Char} (h : ∀ c ∈ cs, c.isDigit = true) :
    digitsValue cs < 10 ^ cs.length := by
  induction cs using List.reverseRecOn with
  | nil => decide
  | append_singleton cs c ih =>
      have hc := isDigit_iff.1 (h c (by simp))
      have hcs := ih fun d hd => h d (List.mem_append_left _ hd)
      have hvalue : digitsValue (cs ++ [c]) =
          10 * digitsValue cs + (c.toNat - 48) := by
        rw [digitsValue, List.foldl_append]
        rfl
      rw [hvalue, List.length_append, List.length_singleton, Nat.pow_succ]
      omega

/-- A positive number has no leading zero. -/
theorem head?_toDigits {n : Nat} (hn : 0 < n) :
    (Nat.toDigits 10 n).head? ≠ some '0' := by
  induction n using Nat.base_induction 10 (by decide) with
  | single m hm =>
      have hdigit : ∀ k < 10, 0 < k → (Nat.digitChar k) ≠ '0' := by decide
      rw [Nat.toDigits_of_lt_base hm]
      simpa using hdigit m hm hn
  | digit m k hk hm ih =>
      obtain ⟨c, cs, hcs⟩ :=
        List.exists_cons_of_ne_nil (Nat.toDigits_ne_nil (n := m) (b := 10))
      rw [← Nat.toDigits_append_toDigits (by decide) hm hk, hcs]
      rw [hcs] at ih
      exact ih hm

theorem inWord64_of_inInt64 {n : Int} (h : inInt64 n = true) :
    inWord64 n = true := by
  rw [inInt64_iff] at h
  rw [inWord64_iff]
  omega

theorem inInt64_natCast (n : Nat) : inInt64 n = decide (n < 2 ^ 63) := by
  rw [Bool.eq_iff_iff, inInt64_iff, decide_eq_true_iff]
  omega

theorem inWord64_natCast (n : Nat) : inWord64 n = decide (n < 2 ^ 64) := by
  rw [Bool.eq_iff_iff, inWord64_iff, decide_eq_true_iff]
  omega

/-- The text of an integer is its digits with a minus sign if it is negative. -/
theorem toList_toString_int (z : Int) :
    (toString z).toList =
      (if z < 0 then ['-'] else []) ++ Nat.toDigits 10 z.natAbs := by
  rw [Int.toString_eq_repr, Int.repr_eq_if]
  by_cases hneg : z < 0
  · rw [if_neg (by omega), if_pos hneg, String.toList_append, Nat.toList_repr,
      show (-z).toNat = z.natAbs by omega]
    rfl
  · rw [if_pos (by omega), if_neg hneg, Nat.toList_repr, show z.toNat =
      z.natAbs by omega]
    rfl

end Numeral

section ZeroPadded

variable {width n : Nat}

theorem isDigit_of_mem_zeroPadded :
    ∀ c ∈ zeroPadded width n, c.isDigit = true := by
  intro c hc
  rcases List.mem_append.1 hc with hc | hc
  · rw [List.eq_of_mem_replicate hc]
    rfl
  · exact Numeral.isDigit_of_mem_toDigits c hc

theorem digitsValue_zeroPadded :
    Numeral.digitsValue (zeroPadded width n) = n := by
  rw [zeroPadded, padLeft, Numeral.digitsValue_zeros_append]
  exact Numeral.digitsValue_toDigits n

theorem zeroPadded_ne_nil : zeroPadded width n ≠ [] := by
  intro h
  exact Nat.toDigits_ne_nil (List.append_eq_nil_iff.1 h).2

theorem length_zeroPadded (hwidth : 0 < width) (hn : n < 10 ^ width) :
    (zeroPadded width n).length = width := by
  have hlength : (decimalDigits n).length ≤ width :=
    (Nat.length_toDigits_le_iff (by decide) hwidth).2 hn
  rw [zeroPadded, padLeft, List.length_append, List.length_replicate]
  omega

end ZeroPadded

end Stencil

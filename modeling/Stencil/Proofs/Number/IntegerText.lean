/-
Integer numerals.  A text is read as an integer if and only if it is at least
one decimal digit, with a sign in front of it or not, and it is read as the
integer that it denotes.  As a decimal numeral such a text is its magnitude,
rounded once.
-/
import Stencil.Proofs.Number.Digits
import Stencil.Proofs.Number.WholeNumber

namespace Stencil.Numeral

/-- The texts that denote integers. -/
inductive IntegerText : List Char → Int → Prop where
  | plain {digits : List Char} (nonempty : digits ≠ [])
      (decimal : ∀ c ∈ digits, c.isDigit = true) :
      IntegerText digits (Nat.ofDigitChars 10 digits 0)
  | plus {digits : List Char} (nonempty : digits ≠ [])
      (decimal : ∀ c ∈ digits, c.isDigit = true) :
      IntegerText ('+' :: digits) (Nat.ofDigitChars 10 digits 0)
  | minus {digits : List Char} (nonempty : digits ≠ [])
      (decimal : ∀ c ∈ digits, c.isDigit = true) :
      IntegerText ('-' :: digits) (-(Nat.ofDigitChars 10 digits 0 : Int))

variable {cs digits : List Char} {n : Int}

theorem isDigits_iff :
    isDigits cs = true ↔ cs ≠ [] ∧ ∀ c ∈ cs, c.isDigit = true := by
  rw [isDigits, Bool.and_eq_true, List.all_eq_true, Bool.not_eq_true',
    List.isEmpty_eq_false_iff]

theorem takeSign_digits (hne : cs ≠ []) (hdigits : ∀ c ∈ cs, c.isDigit = true) :
    takeSign cs = (false, cs) := by
  obtain ⟨c, tail, rfl⟩ := List.exists_cons_of_ne_nil hne
  have hc := hdigits c List.mem_cons_self
  unfold takeSign
  split
  next heq =>
      exact absurd (List.cons.inj heq).1 (Text.ne_of_class hc (by decide))
  next heq =>
      exact absurd (List.cons.inj heq).1 (Text.ne_of_class hc (by decide))
  next => rfl

theorem takeSign_cases (cs : List Char) :
    (∃ tail, cs = '-' :: tail ∧ takeSign cs = (true, tail)) ∨
      (∃ tail, cs = '+' :: tail ∧ takeSign cs = (false, tail)) ∨
        takeSign cs = (false, cs) := by
  unfold takeSign
  split
  next tail => exact Or.inl ⟨tail, rfl, rfl⟩
  next tail => exact Or.inr (Or.inl ⟨tail, rfl, rfl⟩)
  next => exact Or.inr (Or.inr rfl)

theorem readInt?_eq_some_iff : readInt? cs = some n ↔ IntegerText cs n := by
  constructor
  · intro h
    unfold readInt? at h
    simp only at h
    split at h
    next hdigits =>
        obtain ⟨hne, hdecimal⟩ := isDigits_iff.1 hdigits
        obtain rfl := Option.some.inj h
        rcases takeSign_cases cs with
          ⟨tail, rfl, htake⟩ | ⟨tail, rfl, htake⟩ | htake
        all_goals rw [htake] at hne hdecimal ⊢
        · exact .minus hne hdecimal
        · exact .plus hne hdecimal
        · exact .plain hne hdecimal
    next => contradiction
  · intro h
    cases h with
    | plain hne hdecimal =>
        rw [readInt?, takeSign_digits hne hdecimal]
        simp only [isDigits_iff.2 ⟨hne, hdecimal⟩]
        rfl
    | plus hne hdecimal =>
        rw [readInt?, takeSign]
        simp only [isDigits_iff.2 ⟨hne, hdecimal⟩]
        rfl
    | minus hne hdecimal =>
        rw [readInt?, takeSign]
        simp only [isDigits_iff.2 ⟨hne, hdecimal⟩]
        rfl

/-- The integers of 64 bits are those that numerals are read as. -/
theorem readInt64?_eq_some_iff :
    readInt64? cs = some n ↔
      IntegerText cs n ∧ -9223372036854775808 ≤ n ∧
        n < 9223372036854775808 := by
  rw [readInt64?, Option.filter_eq_some_iff, readInt?_eq_some_iff, inInt64_iff]

theorem readUnsigned?_digits (negative : Bool) (hne : digits ≠ [])
    (hdigits : ∀ c ∈ digits, c.isDigit = true) :
    readUnsigned? negative digits =
      some (Double.ofRatio negative (Nat.ofDigitChars 10 digits 0) 1) := by
  have htake : digits.takeWhile Char.isDigit = digits :=
    List.takeWhile_eq_self_iff.2 hdigits
  have hdrop : digits.dropWhile Char.isDigit = [] :=
    List.dropWhile_eq_nil_iff.2 hdigits
  have hwhole : digits.isEmpty = false := List.isEmpty_eq_false_iff.2 hne
  rw [← Double.ofDecimal_whole]
  simp only [readUnsigned?, htake, hdrop, hwhole, readExponent?,
    List.append_nil]
  rfl

/-- A text of digits is none of the words for infinity and NaN. -/
theorem ofList_toLower_ne (letter : Char) (word : List Char)
    (hletter : letter.isDigit = false) (hne : digits ≠ [])
    (hdigits : ∀ c ∈ digits, c.isDigit = true) :
    String.ofList (digits.map Char.toLower) ≠
      String.ofList (letter :: word) := by
  obtain ⟨c, rest, rfl⟩ := List.exists_cons_of_ne_nil hne
  intro heq
  have hc := hdigits c List.mem_cons_self
  have hlower : c.toLower = c := by
    have hcode := isDigit_iff.1 hc
    apply dif_neg
    rintro ⟨hupper, -⟩
    have hletter : 65 ≤ c.toNat := UInt32.le_iff_toNat_le.1 hupper
    omega
  have hhead := (List.cons.inj (String.ofList_injective heq)).1
  rw [hlower] at hhead
  rw [hhead, hletter] at hc
  contradiction

theorem readDouble?_of_takeSign {negative : Bool}
    (hsign : takeSign cs = (negative, digits)) (hne : digits ≠ [])
    (hdigits : ∀ c ∈ digits, c.isDigit = true) :
    readDouble? cs =
      some (Double.ofRatio negative (Nat.ofDigitChars 10 digits 0) 1) := by
  have hinf := ofList_toLower_ne 'i' ['n', 'f'] (by decide) hne hdigits
  have hinfinity := ofList_toLower_ne 'i' ['n', 'f', 'i', 'n', 'i', 't', 'y']
    (by decide) hne
    hdigits
  have hnan := ofList_toLower_ne 'n' ['a', 'n'] (by decide) hne hdigits
  unfold readDouble?
  rw [hsign]
  simp only
  rw [if_neg (not_or.2 ⟨hinf, hinfinity⟩), if_neg hnan,
    readUnsigned?_digits negative hne hdigits]

/-- An integer numeral is also a decimal numeral of its magnitude. -/
theorem IntegerText.readDouble? (h : IntegerText cs n) :
    ∃ (negative : Bool) (m : Nat), n = (if negative then -(m : Int) else m) ∧
      Numeral.readDouble? cs = some (Double.ofRatio negative m 1) := by
  cases h with
  | plain hne hdigits =>
      exact ⟨false, _, rfl,
        readDouble?_of_takeSign (takeSign_digits hne hdigits) hne hdigits⟩
  | plus hne hdigits =>
      exact ⟨false, _, rfl, readDouble?_of_takeSign rfl hne hdigits⟩
  | minus hne hdigits =>
      exact ⟨true, _, rfl, readDouble?_of_takeSign rfl hne hdigits⟩

end Stencil.Numeral

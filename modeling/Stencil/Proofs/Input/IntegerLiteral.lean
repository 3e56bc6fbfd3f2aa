/-
Integers written in JSON text.  A literal is read as a stored integer if it fits
a word and as the nearest double otherwise.  Conversion to an integer then
agrees with the conversion of the same characters as a string, except next to
the lower end of the range: there the double is the least integer itself.
-/
import Stencil.Proofs.Input.Integer
import Stencil.Proofs.Json.ReadBack
import Stencil.Proofs.Number.WholeNumber
import Stencil.Proofs.Text.Pieces

namespace Stencil

/-- An integer in JSON text: digits without a superfluous zero in front, with a
minus sign or without. -/
structure IntegerLiteral where
  negative : Bool
  digits : List Char
  whole : Json.WholeDigits digits

namespace IntegerLiteral

def chars (literal : IntegerLiteral) : List Char :=
  (if literal.negative then ['-'] else []) ++ literal.digits

def text (literal : IntegerLiteral) : String :=
  String.ofList literal.chars

def magnitude (literal : IntegerLiteral) : Nat :=
  Nat.ofDigitChars 10 literal.digits 0

/-- The integer that the user wrote. -/
def value (literal : IntegerLiteral) : Int :=
  if literal.negative then -(literal.magnitude : Int) else literal.magnitude

/-- The integers below the range that are rounded to its end. -/
def RoundsToLeast (literal : IntegerLiteral) : Prop :=
  -2 ^ 63 - 1024 ≤ literal.value ∧ literal.value < -2 ^ 63

variable {literal : IntegerLiteral} {v : Variable} {value : Json} {n : Int}

theorem value_of_negative (hsign : literal.negative = true) :
    literal.value = -(literal.magnitude : Int) := by
  rw [IntegerLiteral.value, if_pos hsign]

theorem value_of_positive (hsign : literal.negative = false) :
    literal.value = literal.magnitude := by
  rw [IntegerLiteral.value, if_neg (by rw [hsign]; exact Bool.false_ne_true)]

theorem integerText (literal : IntegerLiteral) :
    Numeral.IntegerText literal.chars literal.value := by
  obtain ⟨negative, digits, hne, hdigits, -⟩ := literal
  cases negative with
  | true => exact .minus hne hdigits
  | false => exact .plain hne hdigits

theorem isBlank_of_mem_chars {c : Char} (hc : c ∈ literal.chars) :
    Text.isBlank c = false := by
  obtain ⟨-, hdigits, -⟩ := literal.whole
  rcases List.mem_append.1 hc with hc | hc
  · cases hsign : literal.negative with
    | true =>
        rw [hsign, if_pos rfl, List.mem_singleton] at hc
        rw [hc]
        decide
    | false =>
        rw [hsign] at hc
        contradiction
  · exact isBlank_eq_false_of_isDigit (hdigits c hc)

theorem trimBlanks_chars (literal : IntegerLiteral) :
    Text.trimBlanks literal.chars = literal.chars := by
  apply Text.trimWhere_eq_self
  · exact Text.stops_of_all fun c hc => isBlank_of_mem_chars hc
  · exact Text.stops_of_all fun c hc =>
      isBlank_of_mem_chars (List.mem_reverse.1 hc)

/-- As a string a literal denotes the integer that was written, if it is in the
range. -/
theorem string_denotes_iff :
    (Json.string literal.text).DenotesInteger n ↔
      literal.value = n ∧ IsInt64 n := by
  have hchars : Text.trimBlanks literal.text.toList = literal.chars := by
    rw [text, String.toList_ofList, trimBlanks_chars]
  have hwritten := Numeral.readInt?_eq_some_iff.2 literal.integerText
  constructor
  · intro h
    cases h with
    | text hnumeral hrange =>
        rw [hchars, ← Numeral.readInt?_eq_some_iff, hwritten] at hnumeral
        exact ⟨Option.some.inj hnumeral, hrange⟩
    | truncated _ hdouble => contradiction
  · rintro ⟨rfl, hrange⟩
    exact .text (hchars ▸ literal.integerText) hrange

/-- What a literal is read as: a stored integer, a zero with its sign, or the
double next to an integer that no word holds. -/
inductive ReadAs (literal : IntegerLiteral) : Json → Prop where
  | stored (word : Numeral.inWord64 literal.value = true) :
      ReadAs literal (.integer literal.value)
  | zero (isZero : literal.value = 0) :
      ReadAs literal (.number (Double.zero true))
  | rounded (large : Numeral.inWord64 literal.value = false) :
      ReadAs literal
        (.number (Double.ofRatio literal.negative literal.magnitude 1))

theorem ofText?_text (literal : IntegerLiteral) :
    Json.ofText? literal.text =
      (Json.ofIntegerLiteral? literal.negative literal.magnitude).map
        Json.canonical := by
  rw [Json.ofText?, text, chars,
    Json.ofTextAsWritten?_whole literal.negative literal.whole, magnitude]

theorem readAs_of_ofText? (h : Json.ofText? literal.text = some value) :
    literal.ReadAs value := by
  rw [ofText?_text, Option.map_eq_some_iff] at h
  obtain ⟨read, hread, rfl⟩ := h
  rcases Json.ofIntegerLiteral?_cases hread with
    ⟨-, hzero, rfl⟩ | ⟨hword, rfl⟩ | ⟨hlarge, -, rfl⟩
  · refine .zero ?_
    rw [IntegerLiteral.value, hzero]
    exact ite_self _
  · exact .stored hword
  · exact .rounded hlarge

/-- A literal in the range denotes what was written. -/
theorem ReadAs.denotes (h : literal.ReadAs value)
    (hrange : IsInt64 literal.value) :
    value.DenotesInteger literal.value := by
  cases h with
  | stored => exact .stored hrange
  | zero hzero =>
      rw [hzero]
      exact Json.toInteger?_eq_some_iff.1 (by decide +kernel)
  | rounded hlarge =>
      rw [Numeral.inWord64_of_inInt64 (isInt64_iff.1 hrange)] at hlarge
      contradiction

/-- Next below the range a literal denotes the least integer, not the one that
was written. -/
theorem ReadAs.denotes_least (h : literal.ReadAs value)
    (hleast : literal.RoundsToLeast) :
    value.DenotesInteger (-2 ^ 63) := by
  obtain ⟨hlow, hhigh⟩ := hleast
  cases h with
  | stored hword =>
      rw [Numeral.inWord64_iff] at hword
      omega
  | zero hzero => omega
  | rounded =>
      cases hsign : literal.negative with
      | false =>
          rw [value_of_positive hsign] at hhigh
          omega
      | true =>
          rw [value_of_negative hsign] at hlow hhigh
          rw [Double.ofRatio_limit true (by omega) (by omega)]
          exact Json.toInteger?_eq_some_iff.1 (by decide +kernel)

/-- Every other literal beyond the range stays beyond it when it is rounded. -/
theorem ReadAs.not_denotes (h : literal.ReadAs value)
    (hrange : ¬ IsInt64 literal.value) (hfar : ¬ literal.RoundsToLeast) :
    ¬ value.DenotesInteger n := by
  intro hdenotes
  cases h with
  | stored hword =>
      have hlarge : 2 ^ 63 ≤ literal.value := by
        rw [Numeral.inWord64_iff] at hword
        by_contra hlt
        exact hrange ⟨by omega, by omega⟩
      refine Json.NoInteger.not_denotesInteger (.beyond rfl ?_) hdenotes
      exact_mod_cast hlarge
  | zero hzero =>
      apply hrange
      rw [hzero]
      exact ⟨by decide, by decide⟩
  | rounded =>
      obtain ⟨⟨q, hexact, rfl⟩, hinside⟩ :=
        Double.truncateInt64_eq_some_iff.1
          (Json.toInteger?_eq_some_iff.2 hdenotes)
      cases hsign : literal.negative with
      | false =>
          have hlarge : 2 ^ 63 ≤ literal.magnitude := by
            by_contra hlt
            rw [value_of_positive hsign] at hrange
            exact hrange ⟨by omega, by omega⟩
          rw [hsign] at hexact
          exact absurd (Json.lt_of_isInt64_towardZero hinside)
            (not_lt.2 (Double.two_pow_le_value_whole hlarge hexact))
      | true =>
          have hlarge : 2 ^ 63 + 1024 < literal.magnitude := by
            by_contra hle
            rw [IsInt64, value_of_negative hsign] at hrange
            rw [RoundsToLeast, value_of_negative hsign] at hfar
            omega
          rw [hsign, Double.ofRatio_true, Double.value?_neg] at hexact
          obtain ⟨p, hp, rfl⟩ := Option.map_eq_some_iff.1 hexact
          have hstep := le_towardZero (n := 2 ^ 63 + 2048) (by decide)
            (by exact_mod_cast Double.le_value_beyond_limit hlarge hp)
          rw [towardZero_neg] at hinside
          have := hinside.1
          omega

/-- The literal that a number is written as. -/
def ofNat (negative : Bool) (n : Nat) : IntegerLiteral :=
  ⟨negative, Nat.toDigits 10 n, Json.wholeDigits_toDigits n⟩

theorem value_ofNat (negative : Bool) (n : Nat) :
    (ofNat negative n).value = if negative then -(n : Int) else n := by
  rw [value, magnitude, ofNat, Nat.ofDigitChars_ten_toDigits]

end IntegerLiteral

namespace Variable

variable {v : Variable} {literal : IntegerLiteral} {value : Json}

/-- An integer in the range is the same integer as a number and as a string, and
beyond the range both are refused, but for the literals next below it: as
numbers they are taken for the least integer. -/
theorem coerce_integerLiteral (hv : v.type = .integer)
    (hread : Json.ofText? literal.text = some value) :
    (IsInt64 literal.value → v.coerce value = .ok (.integer literal.value) ∧
        v.coerce (.string literal.text) = .ok (.integer literal.value)) ∧
      (¬ IsInt64 literal.value →
        v.coerce (.string literal.text) =
          .error (.invalidInteger v.name literal.text) ∧
          (¬ literal.RoundsToLeast →
            v.coerce value =
              .error (.invalidInteger v.name value.displayText))) ∧
      (literal.RoundsToLeast → v.coerce value = .ok (.integer (-2 ^ 63))) := by
  have hreadAs := IntegerLiteral.readAs_of_ofText? hread
  refine ⟨fun hrange => ⟨?_, ?_⟩, fun hrange => ⟨?_, fun hfar => ?_⟩,
    fun hleast => ?_⟩
  · exact coerce_of_denotesInteger hv (hreadAs.denotes hrange)
  · exact coerce_of_denotesInteger hv
      (IntegerLiteral.string_denotes_iff.2 ⟨rfl, hrange⟩)
  · apply coerce_of_not_denotesInteger hv
    intro n hn
    obtain ⟨rfl, hinside⟩ := IntegerLiteral.string_denotes_iff.1 hn
    exact hrange hinside
  · apply coerce_of_not_denotesInteger hv
    intro n
    exact hreadAs.not_denotes hrange hfar
  · exact coerce_of_denotesInteger hv (hreadAs.denotes_least hleast)

theorem exists_ofText? (negative : Bool) (n : Nat)
    (hread : (Json.ofIntegerLiteral? negative n).isSome = true) :
    ∃ value,
      Json.ofText? (IntegerLiteral.ofNat negative n).text = some value := by
  rw [← Option.isSome_iff_exists, IntegerLiteral.ofText?_text,
    Option.isSome_map, IntegerLiteral.magnitude, IntegerLiteral.ofNat,
    Nat.ofDigitChars_ten_toDigits]
  exact hread

/-- At the upper end of the range a literal is what it says, as its text is.
Half a step below the lower end the number is taken for that end, though the
text is refused; from the next integer on the number is refused as well. -/
theorem coerce_integerLiteral_ends :
    ∃ largest least beyond,
      Json.ofText? (IntegerLiteral.ofNat false 9223372036854775807).text =
        some largest ∧
        countVariable.coerce largest = .ok (.integer 9223372036854775807) ∧
        countVariable.coerce
          (.string (IntegerLiteral.ofNat false 9223372036854775807).text) =
          .ok (.integer 9223372036854775807) ∧
      Json.ofText? (IntegerLiteral.ofNat true 9223372036854776832).text =
        some least ∧
        countVariable.coerce least = .ok (.integer (-2 ^ 63)) ∧
        countVariable.coerce
          (.string (IntegerLiteral.ofNat true 9223372036854776832).text) =
          .error (.invalidInteger "count"
            (IntegerLiteral.ofNat true 9223372036854776832).text) ∧
      Json.ofText? (IntegerLiteral.ofNat true 9223372036854776833).text =
        some beyond ∧
        countVariable.coerce beyond =
          .error (.invalidInteger "count" beyond.displayText) := by
  obtain ⟨largest, hlargest⟩ := exists_ofText? false 9223372036854775807
    (by decide +kernel)
  obtain ⟨least, hleast⟩ := exists_ofText? true 9223372036854776832
    (by decide +kernel)
  obtain ⟨beyond, hbeyond⟩ := exists_ofText? true 9223372036854776833
    (by decide +kernel)
  obtain ⟨hlargestInside, -, -⟩ :=
    coerce_integerLiteral (v := countVariable) rfl hlargest
  obtain ⟨-, hleastText, hleastCrossed⟩ :=
    coerce_integerLiteral (v := countVariable) rfl hleast
  obtain ⟨-, hbeyondRefused, -⟩ :=
    coerce_integerLiteral (v := countVariable) rfl hbeyond
  simp only [IntegerLiteral.RoundsToLeast, IsInt64,
    IntegerLiteral.value_ofNat] at *
  obtain ⟨hnumber, hstring⟩ := hlargestInside (by decide)
  obtain ⟨hrefusedText, -⟩ := hleastText (by decide)
  obtain ⟨-, hrefused⟩ := hbeyondRefused (by decide)
  exact ⟨largest, least, beyond, hlargest, hnumber, hstring, hleast,
    hleastCrossed (by decide), hrefusedText, hbeyond, hrefused (by decide)⟩

/-- A literal has one outcome, as a number and as a string. -/
def CoercesAlike (v : Variable) (literal : IntegerLiteral) : Prop :=
  ∀ value, Json.ofText? literal.text = some value →
    ∀ n, v.coerce value = .ok (.integer n) ↔
      v.coerce (.string literal.text) = .ok (.integer n)

/-- The first integer below the range is taken for another one as a number. -/
theorem belowRange_not_alike :
    ¬ countVariable.CoercesAlike
      (IntegerLiteral.ofNat true 9223372036854775809) := by
  intro halike
  obtain ⟨value, hread⟩ := exists_ofText? true 9223372036854775809
    (by decide +kernel)
  have hleast :
      (IntegerLiteral.ofNat true 9223372036854775809).RoundsToLeast := by
    rw [IntegerLiteral.RoundsToLeast, IntegerLiteral.value_ofNat]
    decide
  have hnumber := coerce_of_denotesInteger (v := countVariable) rfl
    ((IntegerLiteral.readAs_of_ofText? hread).denotes_least hleast)
  have hstring := (halike value hread _).1 hnumber
  have hrefused : countVariable.coerce
      (.string (IntegerLiteral.ofNat true 9223372036854775809).text) =
        .error (.invalidInteger "count"
          (IntegerLiteral.ofNat true 9223372036854775809).text) := by
    apply coerce_of_not_denotesInteger rfl
    intro n hn
    obtain ⟨rfl, hinside⟩ := IntegerLiteral.string_denotes_iff.1 hn
    rw [IntegerLiteral.value_ofNat] at hinside
    exact absurd hinside.1 (by decide)
  rw [hrefused] at hstring
  contradiction

end Variable

end Stencil

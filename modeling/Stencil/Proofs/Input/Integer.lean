/-
Conversion to an integer.  A text, a stored integer, a double and a flag denote
integers in their own ways, and conversion finds the one that a value denotes if
it has 64 bits.  Nothing wraps around and nothing is cut to the range.
-/
import Stencil.Input.Coercion
import Stencil.Proofs.Number.IntegerText
import Stencil.Proofs.Number.Truncation

namespace Stencil

/-- The integers of 64 bits. -/
def IsInt64 (n : Int) : Prop :=
  -2 ^ 63 ≤ n ∧ n < 2 ^ 63

theorem isInt64_iff {n : Int} : IsInt64 n ↔ Numeral.inInt64 n = true := by
  rw [Numeral.inInt64_iff]
  norm_num [IsInt64]

theorem Double.truncateInt64_eq_some_iff {x : Double} {n : Int} :
    x.truncate?.filter Numeral.inInt64 = some n ↔
      (∃ q, x.value? = some q ∧ towardZero q = n) ∧ IsInt64 n := by
  rw [Option.filter_eq_some_iff, truncate?_eq_map, Option.map_eq_some_iff,
    isInt64_iff]

namespace Json

/-- The integer of 64 bits that a value denotes: by its numeral, white space
around it aside, as a stored integer, by the double next to any other number,
whose fraction is cut off, or as a flag. -/
inductive DenotesInteger : Json → Int → Prop where
  | text {s : String} {n : Int}
      (numeral : Numeral.IntegerText (Text.trimBlanks s.toList) n)
      (range : IsInt64 n) : DenotesInteger (string s) n
  | stored {n : Int} (range : IsInt64 n) : DenotesInteger (integer n) n
  | truncated {value : Json} {x : Double} {q : ℚ}
      (other : ∀ k, value = integer k → ¬ IsInt64 k)
      (double : value.toDouble? = some x) (exact : x.value? = some q)
      (range : IsInt64 (towardZero q)) : DenotesInteger value (towardZero q)
  | yes : DenotesInteger (bool true) 1
  | no : DenotesInteger (bool false) 0

/-- The exact value of a number. -/
def numberValue? : Json → Option ℚ
  | integer n => some n
  | number x => x.value?
  | _ => none

/-- Values that no integer of 64 bits is near to. -/
inductive NoInteger : Json → Prop where
  | null : NoInteger null
  | array (items : List Json) : NoInteger (array items)
  | object (fields : List (String × Json)) : NoInteger (object fields)
  | beyond {value : Json} {q : ℚ} (exact : value.numberValue? = some q)
      (large : 2 ^ 63 ≤ q) :
      NoInteger value

variable {value : Json} {n : Int}

/-- Conversion finds the integer that a value denotes and no other. -/
theorem toInteger?_eq_some_iff :
    value.toInteger? = some n ↔ value.DenotesInteger n := by
  constructor
  · intro h
    cases value with
    | null | array | object => contradiction
    | bool b =>
        obtain rfl := Option.some.inj h
        cases b with
        | true => exact .yes
        | false => exact .no
    | string s =>
        obtain ⟨hnumeral, hrange⟩ := Numeral.readInt64?_eq_some_iff.1 h
        exact .text hnumeral (isInt64_iff.2 (Numeral.inInt64_iff.2 hrange))
    | integer k =>
        rw [toInteger?] at h
        split at h
        next hrange =>
            obtain rfl := Option.some.inj h
            exact .stored (isInt64_iff.2 hrange)
        next hlarge =>
            obtain ⟨⟨q, hvalue, rfl⟩, hrange⟩ :=
              Double.truncateInt64_eq_some_iff.1 h
            refine .truncated (fun k' heq => ?_) rfl hvalue hrange
            rw [← Json.integer.inj heq, isInt64_iff]
            exact hlarge
    | number x =>
        obtain ⟨⟨q, hvalue, rfl⟩, hrange⟩ :=
          Double.truncateInt64_eq_some_iff.1 h
        exact .truncated (fun k heq => by contradiction) rfl hvalue hrange
  · intro h
    cases h with
    | yes | no => rfl
    | text hnumeral hrange =>
        exact Numeral.readInt64?_eq_some_iff.2
          ⟨hnumeral, Numeral.inInt64_iff.1 (isInt64_iff.1 hrange)⟩
    | stored hrange => rw [toInteger?, if_pos (isInt64_iff.1 hrange)]
    | truncated hother hdouble hvalue hrange =>
        have htruncated :=
          Double.truncateInt64_eq_some_iff.2 ⟨⟨_, hvalue, rfl⟩, hrange⟩
        cases value with
        | null | bool | string | array | object => contradiction
        | integer k =>
            obtain rfl := Option.some.inj hdouble
            rw [toInteger?, if_neg fun hinside =>
              hother k rfl (isInt64_iff.2 hinside)]
            exact htruncated
        | number x =>
            obtain rfl := Option.some.inj hdouble
            exact htruncated

/-- What has an integer of 64 bits as its whole part lies below the end of the
range. -/
theorem lt_of_isInt64_towardZero {q : ℚ} (h : IsInt64 (towardZero q)) :
    q < 2 ^ 63 := by
  by_contra hle
  have hlarge : ((2 ^ 63 : Int) : ℚ) ≤ q := by
    push_cast
    exact not_lt.1 hle
  exact absurd (le_towardZero (by norm_num) hlarge) (not_le.2 h.2)

theorem DenotesInteger.numberValue?_lt {q : ℚ} (h : value.DenotesInteger n)
    (hvalue : value.numberValue? = some q) : q < 2 ^ 63 := by
  cases h with
  | yes | no | text => contradiction
  | stored hrange =>
      obtain rfl := Option.some.inj hvalue
      exact_mod_cast hrange.2
  | truncated hother hdouble hexact hrange =>
      have hlt := lt_of_isInt64_towardZero hrange
      cases value with
      | null | bool | string | array | object => contradiction
      | number x =>
          obtain rfl := Option.some.inj hdouble
          rw [numberValue?, hexact] at hvalue
          rwa [← Option.some.inj hvalue]
      | integer k =>
          obtain rfl := Option.some.inj hdouble
          obtain rfl := Option.some.inj hvalue
          by_contra hle
          have hlarge : (2 ^ 63 : Int) ≤ k := by exact_mod_cast not_lt.1 hle
          exact absurd (Double.two_pow_le_value_ofInt hlarge hexact)
            (not_le.2 hlt)

theorem NoInteger.not_denotesInteger (h : value.NoInteger) :
    ¬ value.DenotesInteger n := by
  intro hdenotes
  cases h with
  | beyond hexact hlarge =>
      exact absurd (hdenotes.numberValue?_lt hexact) (not_lt.2 hlarge)
  | null | array | object =>
      cases hdenotes with
      | truncated hother hdouble => contradiction

end Json

namespace Variable

variable {v : Variable}

theorem coerce_of_denotesInteger {value : Json} {n : Int}
    (hv : v.type = .integer) (h : value.DenotesInteger n) :
    v.coerce value = .ok (.integer n) := by
  simp only [coerce, hv, Json.toInteger?_eq_some_iff.2 h]

theorem coerce_of_not_denotesInteger {value : Json} (hv : v.type = .integer)
    (h : ∀ n, ¬ value.DenotesInteger n) :
    v.coerce value = .error (.invalidInteger v.name value.displayText) := by
  have hnone : value.toInteger? = none := by
    apply Option.eq_none_iff_forall_ne_some.2
    intro n hn
    exact h n (Json.toInteger?_eq_some_iff.1 hn)
  simp only [coerce, hv, hnone]

theorem denotesInteger_of_coerce {value : Json} {n : Int}
    (hv : v.type = .integer) (h : v.coerce value = .ok (.integer n)) :
    value.DenotesInteger n := by
  apply Json.toInteger?_eq_some_iff.1
  cases hread : value.toInteger? with
  | none => simp [coerce, hv, hread] at h
  | some k => simpa [coerce, hv, hread] using h

/-- Conversion to an integer is exact.  It yields the integer of 64 bits that a
value denotes, and every other value is refused with the name of the variable
and the text of the value; numbers from the end of the range on are among these,
however they are stored. -/
theorem coerce_integer (hv : v.type = .integer) (value : Json) :
    (∀ n, v.coerce value = .ok (.integer n) ↔ value.DenotesInteger n) ∧
      ((∀ n, ¬ value.DenotesInteger n) →
        v.coerce value = .error (.invalidInteger v.name value.displayText)) ∧
      (value.NoInteger →
        v.coerce value =
        .error (.invalidInteger v.name value.displayText)) := by
  have hrefused : (∀ n, ¬ value.DenotesInteger n) →
      v.coerce value = .error (.invalidInteger v.name value.displayText) := by
    intro hnone
    have hread : value.toInteger? = none :=
      Option.eq_none_iff_forall_ne_some.2 fun n hn =>
        hnone n (Json.toInteger?_eq_some_iff.1 hn)
    simp only [coerce, hv, hread]
  refine ⟨fun n => ?_, hrefused, fun h => hrefused fun n =>
    h.not_denotesInteger⟩
  rw [← Json.toInteger?_eq_some_iff]
  cases hread : value.toInteger? with
  | none => simp [coerce, hv, hread]
  | some k => simp [coerce, hv, hread]

def countVariable : Variable :=
  { name := "count", type := .integer }

/-- At the limits: the least integer as a text and as a double, and the first
number beyond the largest one as a stored integer, as the double nearest to the
largest one, and as a text.  A negative fraction has nothing left when it is cut
off. -/
theorem coerce_integer_limits :
    countVariable.coerce (.string " -9223372036854775808 ") =
        .ok (.integer (-9223372036854775808)) ∧
      countVariable.coerce (.number (.finite true Double.leadingBit 11)) =
        .ok (.integer (-9223372036854775808)) ∧
      countVariable.coerce (.number (.finite true Double.leadingBit (-53))) =
        .ok (.integer 0) ∧
      countVariable.coerce (.integer 9223372036854775808) =
        .error (.invalidInteger "count" "9223372036854775808") ∧
      countVariable.coerce (.number (Double.ofInt 9223372036854775807)) =
        .error (.invalidInteger "count" "9.223372036854776e+18") ∧
      countVariable.coerce (.string "9223372036854775808") =
        .error (.invalidInteger "count" "9223372036854775808") := by
  have hvalue : (Double.ofInt 9223372036854775807).value? = some (2 ^ 63) := by
    have hround : Double.ofInt 9223372036854775807 =
        .finite false Double.leadingBit 11 := by
      decide +kernel
    rw [hround]
    norm_num [Double.value?, Double.leadingBit]
  refine ⟨?_, ?_, ?_, ?_, ?_, ?_⟩
  · have hnumeral :
        Numeral.IntegerText (Text.trimBlanks " -9223372036854775808 ".toList)
          (-9223372036854775808) :=
            Numeral.readInt?_eq_some_iff.1 (by decide +kernel)
    exact ((coerce_integer rfl _).1 _).2
      (.text hnumeral (by norm_num [IsInt64]))
  · exact ((coerce_integer rfl _).1 _).2
      (Json.toInteger?_eq_some_iff.1 (by decide +kernel))
  · exact ((coerce_integer rfl _).1 _).2
      (Json.toInteger?_eq_some_iff.1 (by decide +kernel))
  · exact (coerce_integer rfl _).2.2 (.beyond rfl (by norm_num))
  · have htext : (Json.number (Double.ofInt 9223372036854775807)).displayText =
        "9.223372036854776e+18" := by decide +kernel
    rw [← htext]
    exact (coerce_integer rfl _).2.2 (.beyond hvalue le_rfl)
  · have hnone : (Json.string "9223372036854775808").toInteger? = none := by
      decide +kernel
    refine (coerce_integer rfl _).2.1 fun n hn => ?_
    rw [← Json.toInteger?_eq_some_iff, hnone] at hn
    contradiction

end Variable

end Stencil

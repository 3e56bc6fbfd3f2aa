/-
The fields of written timestamps read back.  Each item of a form takes exactly
what was written for it, so a field is read whatever the form goes on with.
-/
import Stencil.Proofs.Number.Digits
import Stencil.Time.Reader

namespace Stencil.TimeForm

open Text

variable {rest : List Char}

/-- Digits are read when they fill the width or something stops them. -/
theorem readDigits?_run {width : Nat} {ds : List Char} (hne : ds ≠ [])
    (hdigits : ∀ c ∈ ds, c.isDigit = true) (hlength : ds.length ≤ width)
    (hstop : ds.length = width ∨ Stops Char.isDigit rest) :
    readDigits? width (ds ++ rest) = some (Numeral.digitsValue ds, rest) := by
  have hstops : Stops Char.isDigit (rest.take (width - ds.length)) := by
    rcases hstop with hfull | hstop
    · rw [hfull, Nat.sub_self]
      exact stops_nil _
    · intro c hc
      rw [List.head?_take] at hc
      split at hc
      · cases hc
      · exact hstop c hc
  have htake : ((ds ++ rest).take width).takeWhile Char.isDigit = ds := by
    rw [List.take_append, List.take_of_length_le hlength,
      takeWhile_run hdigits hstops]
  unfold readDigits?
  simp only [htake, List.drop_left]
  rw [if_neg (by simpa using hne)]

/-- A field of exactly so many digits. -/
theorem readDigits?_zeroPadded {width n : Nat} (hwidth : 0 < width)
    (hn : n < 10 ^ width) (rest : List Char) :
    readDigits? width (zeroPadded width n ++ rest) = some (n, rest) := by
  have hlength := length_zeroPadded hwidth hn
  rw [readDigits?_run zeroPadded_ne_nil isDigit_of_mem_zeroPadded hlength.le
    (Or.inl hlength), digitsValue_zeroPadded]

theorem exists_digit_zeroPadded (width n : Nat) :
    ∃ c cs, zeroPadded width n = c :: cs ∧ c.isDigit = true := by
  have hne : zeroPadded width n ≠ [] := zeroPadded_ne_nil
  obtain ⟨c, cs, hcons⟩ := List.exists_cons_of_ne_nil hne
  have hmem : c ∈ zeroPadded width n := by
    rw [hcons]
    exact List.mem_cons_self
  exact ⟨c, cs, hcons, isDigit_of_mem_zeroPadded c hmem⟩

theorem stops_zeroPadded {p : Char → Bool}
    (hp : ∀ c : Char, c.isDigit = true → p c = false) (width n : Nat)
    (rest : List Char) : Stops p (zeroPadded width n ++ rest) := by
  obtain ⟨c, cs, hcons, hc⟩ := exists_digit_zeroPadded width n
  rw [hcons]
  exact stops_cons.2 (hp c hc)

theorem stops_blank_zeroPadded (width n : Nat) (rest : List Char) :
    Stops isBlank (zeroPadded width n ++ rest) :=
  stops_zeroPadded (fun _ => isBlank_eq_false_of_isDigit) width n rest

theorem readField?_zeroPadded {n : Nat} (hn : n < 100) (rest : List Char) :
    readField? (zeroPadded 2 n ++ rest) = some (n, rest) := by
  rw [readField?, dropWhile_eq_self_of_stops (stops_blank_zeroPadded 2 n rest)]
  exact readDigits?_zeroPadded (by decide) hn rest

/-- A year that is written with its sign is as long as it needs to be. -/
theorem readYear?_yearText (year : Int) (hrest : Stops Char.isDigit rest) :
    readYear? (yearText year ++ rest) = some (year, rest) := by
  unfold yearText
  by_cases hplain : 0 ≤ year ∧ year ≤ 9999
  · have hvalue : (year.toNat : Int) = year := Int.toNat_of_nonneg hplain.1
    rw [if_pos hplain, readYear?,
      dropWhile_eq_self_of_stops (stops_blank_zeroPadded _ _ _)]
    obtain ⟨c, cs, hcons, hc⟩ := exists_digit_zeroPadded 4 year.toNat
    have hread : readDigits? 4 (zeroPadded 4 year.toNat ++ rest) =
        some (year.toNat, rest) :=
      readDigits?_zeroPadded (by decide) (by omega) rest
    have hminus : c ≠ '-' := ne_of_class hc (by decide)
    have hplus : c ≠ '+' := ne_of_class hc (by decide)
    rw [hcons] at hread ⊢
    split
    next heq => exact absurd (List.cons.inj heq).1 hminus
    next heq => exact absurd (List.cons.inj heq).1 hplus
    next =>
        rw [hread, Option.map_some]
        simp only [hvalue]
  · have hread : readDigits? (zeroPadded 4 year.natAbs ++ rest).length
        (zeroPadded 4 year.natAbs ++ rest) = some (year.natAbs, rest) := by
      rw [readDigits?_run zeroPadded_ne_nil isDigit_of_mem_zeroPadded
        (by rw [List.length_append]; omega) (Or.inr hrest),
        digitsValue_zeroPadded]
    rw [if_neg hplain, readYear?, List.cons_append]
    by_cases hneg : year < 0
    · have hskip : Stops isBlank ('-' :: (zeroPadded 4 year.natAbs ++ rest)) :=
        stops_cons.2 (by decide)
      rw [if_pos hneg, dropWhile_eq_self_of_stops hskip]
      simp only [hread, Option.map_some]
      rw [show -(year.natAbs : Int) = year by omega]
    · have hskip : Stops isBlank ('+' :: (zeroPadded 4 year.natAbs ++ rest)) :=
        stops_cons.2 (by decide)
      rw [if_neg hneg, dropWhile_eq_self_of_stops hskip]
      simp only [hread, Option.map_some]
      rw [show (year.natAbs : Int) = year by omega]

/-- A fraction of up to nine digits counts units of its last place. -/
theorem readFraction?_digits {ds : List Char} (hne : ds ≠ [])
    (hlength : ds.length ≤ 9) (hdigits : ∀ c ∈ ds, c.isDigit = true)
    (hrest : Stops Char.isDigit rest) :
    readFraction? ('.' :: ds ++ rest) =
      some (Numeral.digitsValue ds * 10 ^ (9 - ds.length), rest) := by
  have htake := takeWhile_run hdigits hrest
  have hdrop := dropWhile_run hdigits hrest
  rw [List.cons_append, readFraction?]
  simp only [htake, hdrop, List.take_of_length_le hlength]
  rw [if_neg (by simpa using hne)]
  rfl

theorem readFraction?_of_head? (hpoint : rest.head? ≠ some '.') :
    readFraction? rest = some (0, rest) := by
  unfold readFraction?
  split
  next => simp at hpoint
  next => rfl

/-- A fraction is printed as one, two or three groups of three digits, or not at
all. -/
theorem fractionChars_cases (c : Clock) :
    (c.fractionChars = [] ∧ c.shownNanos = 0) ∨
      ∃ width n, (width = 3 ∨ width = 6 ∨ width = 9) ∧ n < 10 ^ width ∧
        c.fractionChars = '.' :: zeroPadded width n ∧
        n * 10 ^ (9 - width) = c.shownNanos := by
  have hlt : c.shownNanos < 10 ^ 9 := Nat.mod_lt _ (by decide)
  unfold Clock.fractionChars
  simp only
  split
  next hzero => exact Or.inl ⟨rfl, hzero⟩
  split
  · exact Or.inr ⟨3, _, Or.inl rfl, by omega, rfl, by omega⟩
  split
  · exact Or.inr ⟨6, _, Or.inr (Or.inl rfl), by omega, rfl, by omega⟩
  · exact Or.inr ⟨9, _, Or.inr (Or.inr rfl), hlt, rfl, by omega⟩

theorem readFraction?_fractionChars (c : Clock)
    (hrest : Stops Char.isDigit rest) (hpoint : rest.head? ≠ some '.') :
    readFraction? (c.fractionChars ++ rest) = some (c.shownNanos, rest) := by
  rcases fractionChars_cases c with
    ⟨hchars, hzero⟩ | ⟨width, n, hwidth, hn, hchars, hvalue⟩
  · rw [hchars, hzero, List.nil_append, readFraction?_of_head? hpoint]
  · have hlength : (zeroPadded width n).length = width :=
      length_zeroPadded (by omega) hn
    rw [hchars,
      readFraction?_digits zeroPadded_ne_nil (by omega)
        isDigit_of_mem_zeroPadded hrest,
      digitsValue_zeroPadded, hlength, hvalue]

theorem readPair?_zeroPadded {n : Nat} (hn : n < 100) (rest : List Char) :
    readPair? (zeroPadded 2 n ++ rest) = some (n, rest) := by
  have hlength : (zeroPadded 2 n).length = 2 := length_zeroPadded (by decide) hn
  have hdigits : ∀ c ∈ zeroPadded 2 n, c.isDigit = true :=
    isDigit_of_mem_zeroPadded
  have hvalue : Numeral.digitsValue (zeroPadded 2 n) = n :=
    digitsValue_zeroPadded
  match hcs : zeroPadded 2 n, hlength with
  | [a, b], _ =>
      rw [hcs] at hdigits hvalue
      have ha := hdigits a (by simp)
      have hb := hdigits b (by simp)
      simp [readPair?, ha, hb, hvalue]

/-- An offset of whole minutes, less than a day. -/
structure IsOffset (offset : Int) : Prop where
  lt : offset.natAbs < DateTime.daySeconds
  minutes : offset.natAbs % 60 = 0

/-- The signs of an offset. -/
def isOffsetSign (c : Char) : Bool :=
  c == '+' || c == '-' || c == '\u2212'

theorem eq_of_isOffsetSign {c : Char} (h : isOffsetSign c = true) :
    c = '+' ∨ c = '-' ∨ c = '\u2212' := by
  simpa only [isOffsetSign, Bool.or_eq_true, beq_iff_eq, or_assoc] using h

/-- An offset in hours and minutes with a sign. -/
def offsetText (sign : Char) (hours minutes : Nat) : List Char :=
  sign :: (zeroPadded 2 hours ++ ':' :: zeroPadded 2 minutes)

/-- The seconds by which a wall clock with that offset is ahead. -/
def offsetSeconds (sign : Char) (hours minutes : Nat) : Int :=
  (if sign = '+' then 1 else -1) * (3600 * hours + 60 * minutes)

theorem readOffsetSign?_cons {sign : Char} (hsign : isOffsetSign sign = true)
    (cs : List Char) :
    readOffsetSign? (sign :: cs) = some (!decide (sign = '+'), cs) := by
  rcases eq_of_isOffsetSign hsign with rfl | rfl | rfl <;> rfl

theorem signed_offsetSeconds (sign : Char) (hours minutes : Nat) :
    Double.signed (!decide (sign = '+')) (hours * 3600 + minutes * 60) =
      offsetSeconds sign hours minutes := by
  unfold offsetSeconds Double.signed
  by_cases hsign : sign = '+'
  · rw [if_pos hsign, decide_eq_true hsign, Bool.not_true,
      if_neg Bool.false_ne_true]
    omega
  · rw [if_neg hsign, decide_eq_false hsign, Bool.not_false, if_pos rfl]
    omega

theorem readOffset?_offsetText {sign : Char} (hsign : isOffsetSign sign = true)
    {hours minutes : Nat} (hhours : hours ≤ 23) (hminutes : minutes ≤ 59)
    (rest : List Char) :
    readOffset? (offsetText sign hours minutes ++ rest) =
      some (offsetSeconds sign hours minutes, rest) := by
  have hblank : ∀ cs, (sign :: cs).dropWhile isBlank = sign :: cs := by
    intro cs
    apply dropWhile_eq_self_of_stops
    rw [stops_cons]
    rcases eq_of_isOffsetSign hsign with rfl | rfl | rfl <;> decide
  have hhour := readPair?_zeroPadded (n := hours) (by omega)
    (':' :: (zeroPadded 2 minutes ++ rest))
  have hminute := readPair?_zeroPadded (n := minutes) (by omega) rest
  have hcolon : (':' :: (zeroPadded 2 minutes ++ rest)).dropWhile
      (fun c => c == ':' || isBlank c) = zeroPadded 2 minutes ++ rest := by
    have hstops : Stops (fun c => c == ':' || isBlank c)
        (zeroPadded 2 minutes ++ rest) := by
      apply stops_zeroPadded
      intro c hc
      have hne : c ≠ ':' := ne_of_class hc (by decide)
      simp [hne, isBlank_eq_false_of_isDigit hc]
    exact dropWhile_eq_self_of_stops hstops
  have hfields : hours < 24 ∧ minutes < 60 := by omega
  unfold readOffset? offsetText
  simp only [List.cons_append, List.append_assoc, hblank,
    readOffsetSign?_cons hsign, Option.bind_eq_bind, Option.bind_some, hhour,
    hcolon, hminute, if_pos hfields, signed_offsetSeconds]

/-- The text of an offset of whole minutes is one of hours and minutes. -/
theorem exists_offsetText {offset : Int} (h : IsOffset offset) :
    ∃ sign hours minutes, isOffsetSign sign = true ∧ hours ≤ 23 ∧ minutes ≤ 59 ∧
      offsetChars [':'] offset = offsetText sign hours minutes ∧
      offsetSeconds sign hours minutes = offset := by
  obtain ⟨hlt, hminutes⟩ := h
  unfold DateTime.daySeconds at hlt
  refine ⟨if offset < 0 then '-' else '+', offset.natAbs / 60 / 60,
    offset.natAbs / 60 % 60, ?_, by omega, by omega, ?_, ?_⟩
  · split <;> decide
  · simp only [offsetChars, offsetText, List.cons_append, List.append_assoc,
      List.nil_append]
  · unfold offsetSeconds
    by_cases hneg : offset < 0
    · rw [if_pos hneg, if_neg (by decide)]
      omega
    · rw [if_neg hneg, if_pos rfl]
      omega

end Stencil.TimeForm

/-
The fields of a timestamp and the numbers in its text.  The text of a timestamp
is cut into its numbers in one way only.  The fields that templates read are
these numbers, except in a leap second: the text counts it as second 60 of the
minute, the fields as second 59 with more microseconds than a second has.
-/
import Stencil.Proofs.Number.IntegerText
import Stencil.Proofs.Time.Printed

namespace Stencil

open Text

/-- The pieces of a printed timestamp between its marks. -/
@[ext]
structure PrintedPlaces where
  year : List Char
  month : List Char
  day : List Char
  hour : List Char
  minute : List Char
  second : List Char
  /-- The digits behind the point, if there is one. -/
  fraction : List Char
  offset : List Char

/-- Two decimal digits. -/
structure TwoDigits (cs : List Char) : Prop where
  length : cs.length = 2
  digits : ∀ c ∈ cs, c.isDigit = true

namespace PrintedPlaces

variable {p q : PrintedPlaces} {sep : Char}

/-- The point stands only in front of digits. -/
def pointed (digits : List Char) : List Char :=
  if digits = [] then [] else '.' :: digits

def chars (sep : Char) (p : PrintedPlaces) : List Char :=
  p.year ++ '-' :: p.month ++ '-' :: p.day ++ sep :: p.hour ++
    ':' :: p.minute ++ ':' :: p.second ++ pointed p.fraction ++ p.offset

/-- A year is digits with a sign or another digit in front of them, and what
follows the fraction is neither a digit nor a point. -/
structure WellFormed (p : PrintedPlaces) : Prop where
  year : ∃ c digits, p.year = c :: digits ∧ ∀ d ∈ digits, d.isDigit = true
  month : TwoDigits p.month
  day : TwoDigits p.day
  hour : TwoDigits p.hour
  minute : TwoDigits p.minute
  second : TwoDigits p.second
  fraction : ∀ c ∈ p.fraction, c.isDigit = true
  offset : Stops FormItem.fraction.admits p.offset

theorem pointed_admitted {digits : List Char}
    (h : ∀ c ∈ digits, c.isDigit = true) :
    ∀ c ∈ pointed digits, FormItem.fraction.admits c = true := by
  unfold pointed
  split
  · exact List.forall_mem_nil _
  · refine List.forall_mem_cons.2 ⟨by decide, fun c hc => ?_⟩
    simp [FormItem.admits, h c hc]

theorem pointed_injective {digits digits' : List Char}
    (h : pointed digits = pointed digits') :
    digits = digits' := by
  unfold pointed at h
  split_ifs at h with hnil hnil'
  · rw [hnil, hnil']
  · exact (List.cons.inj h).2

theorem cut_twoDigits {cs cs' rest rest' : List Char} (hcs : TwoDigits cs)
    (hcs' : TwoDigits cs') (h : cs ++ rest = cs' ++ rest') :
    cs = cs' ∧ rest = rest' :=
  List.append_inj h (hcs.length.trans hcs'.length.symm)

/-- A text is cut into the pieces of a timestamp in one way only. -/
theorem chars_injective (hp : p.WellFormed) (hq : q.WellFormed)
    (h : p.chars sep = q.chars sep) :
    p = q := by
  obtain ⟨c, digits, hyear, hdigits⟩ := hp.year
  obtain ⟨c', digits', hyear', hdigits'⟩ := hq.year
  simp only [chars, hyear, hyear', List.append_assoc, List.cons_append] at h
  obtain ⟨hfirst, h⟩ := List.cons.inj h
  obtain ⟨hdigit, h⟩ :=
    run_append_inj hdigits (stops_cons.2 (by decide)) hdigits'
    (stops_cons.2 (by decide)) h
  obtain ⟨hmonth, h⟩ := cut_twoDigits hp.month hq.month (List.cons.inj h).2
  obtain ⟨hday, h⟩ := cut_twoDigits hp.day hq.day (List.cons.inj h).2
  obtain ⟨hhour, h⟩ := cut_twoDigits hp.hour hq.hour (List.cons.inj h).2
  obtain ⟨hminute, h⟩ := cut_twoDigits hp.minute hq.minute (List.cons.inj h).2
  obtain ⟨hsecond, h⟩ := cut_twoDigits hp.second hq.second (List.cons.inj h).2
  obtain ⟨hpoint, hoffset⟩ :=
    run_append_inj (pointed_admitted hp.fraction) hp.offset
      (pointed_admitted hq.fraction) hq.offset h
  have hyears : p.year = q.year := by rw [hyear, hyear', hfirst, hdigit]
  have hfraction := pointed_injective hpoint
  exact PrintedPlaces.ext hyears hmonth hday hhour hminute hsecond
    hfraction hoffset

/-- The printed fraction in microseconds, later digits dropped. -/
def microseconds (p : PrintedPlaces) : Nat :=
  Numeral.digitsValue p.fraction * 10 ^ 6 / 10 ^ p.fraction.length

theorem microseconds_le (hp : p.WellFormed) : p.microseconds ≤ 999999 := by
  have hlt := Numeral.digitsValue_lt hp.fraction
  have hpos : 0 < 10 ^ p.fraction.length := Nat.pow_pos (by decide)
  have hscaled : p.microseconds < 10 ^ 6 := by
    rw [microseconds, Nat.div_lt_iff_lt_mul hpos, Nat.mul_comm]
    exact Nat.mul_lt_mul_of_pos_left hlt (by decide)
  omega

end PrintedPlaces

theorem twoDigits_zeroPadded {n : Nat} (hn : n < 100) :
    TwoDigits (zeroPadded 2 n) :=
  ⟨length_zeroPadded (by decide) hn, isDigit_of_mem_zeroPadded⟩

namespace Clock

variable {c : Clock}

theorem pointed_fractionChars (c : Clock) :
    PrintedPlaces.pointed c.fractionChars.tail = c.fractionChars := by
  rcases TimeForm.fractionChars_cases c with
    ⟨hchars, -⟩ | ⟨width, n, -, -, hchars, -⟩
  · rw [hchars]
    rfl
  · rw [hchars]
    exact if_neg zeroPadded_ne_nil

theorem isDigit_of_mem_fraction (c : Clock) :
    ∀ d ∈ c.fractionChars.tail, d.isDigit = true := by
  rcases TimeForm.fractionChars_cases c with
    ⟨hchars, -⟩ | ⟨width, n, -, -, hchars, -⟩
  · rw [hchars]
    exact List.forall_mem_nil _
  · rw [hchars]
    exact isDigit_of_mem_zeroPadded

/-- The number of digits behind the point tells what their last place counts. -/
theorem fraction_scaled (c : Clock) :
    Numeral.digitsValue c.fractionChars.tail *
      10 ^ 6 / 10 ^ c.fractionChars.tail.length =
      c.shownNanos / 1000 := by
  rcases TimeForm.fractionChars_cases c with
    ⟨hchars, hzero⟩ | ⟨width, n, hwidth, hn, hchars, hvalue⟩
  · rw [hchars, hzero]
    rfl
  · rw [hchars, List.tail_cons, digitsValue_zeroPadded,
      length_zeroPadded (by omega) hn, ← hvalue]
    rcases hwidth with rfl | rfl | rfl <;> omega

/-- In a leap second the nanoseconds count on from the second before. -/
theorem shown_cases (hc : c.isValid = true)
    (hleap : secondNanos ≤ c.nanos → c.second = 59) :
    (c.shownSecond < 60 ∧ c.second = c.shownSecond ∧
      c.nanos / 1000 = c.shownNanos / 1000) ∨
      (c.shownSecond = 60 ∧ c.second = 59 ∧
        c.nanos / 1000 = 1000000 + c.shownNanos / 1000) := by
  obtain ⟨-, -, hsecond, hnanos⟩ := isValid_iff.1 hc
  unfold shownSecond shownNanos
  unfold secondNanos at hleap hnanos ⊢
  by_cases hlate : 1000000000 ≤ c.nanos
  · have hlast := hleap hlate
    exact Or.inr (by omega)
  · exact Or.inl (by omega)

end Clock

/-- The text of a year is a numeral of that year. -/
theorem readInt?_yearText (year : Int) :
    Numeral.readInt? (yearText year) = some year := by
  have hne : ∀ n : Nat, zeroPadded 4 n ≠ [] := fun n => zeroPadded_ne_nil
  have hdigits : ∀ n : Nat, ∀ c ∈ zeroPadded 4 n, c.isDigit = true := fun n =>
    isDigit_of_mem_zeroPadded
  have hvalue : ∀ n : Nat, Nat.ofDigitChars 10 (zeroPadded 4 n) 0 = n :=
    fun n =>
    digitsValue_zeroPadded
  rw [Numeral.readInt?_eq_some_iff]
  unfold yearText
  split_ifs with hplain hneg
  · have hdenotes := Numeral.IntegerText.plain (hne year.toNat)
      (hdigits year.toNat)
    rwa [hvalue, Int.toNat_of_nonneg hplain.1] at hdenotes
  · have hdenotes := Numeral.IntegerText.minus (hne year.natAbs)
      (hdigits year.natAbs)
    rwa [hvalue, show -(year.natAbs : Int) = year by omega] at hdenotes
  · have hdenotes := Numeral.IntegerText.plus (hne year.natAbs)
      (hdigits year.natAbs)
    rwa [hvalue, show (year.natAbs : Int) = year by omega] at hdenotes

theorem exists_cons_yearText (year : Int) :
    ∃ c digits, yearText year = c :: digits ∧ ∀ d ∈ digits,
      d.isDigit = true := by
  unfold yearText
  split
  · have hne : zeroPadded 4 year.toNat ≠ [] := zeroPadded_ne_nil
    have hdigits : ∀ c ∈ zeroPadded 4 year.toNat, c.isDigit = true :=
      isDigit_of_mem_zeroPadded
    obtain ⟨c, cs, hcons⟩ := List.exists_cons_of_ne_nil hne
    rw [hcons] at hdigits ⊢
    exact ⟨c, cs, rfl, fun d hd => hdigits d (List.mem_cons_of_mem c hd)⟩
  · exact ⟨_, _, rfl, isDigit_of_mem_zeroPadded⟩

namespace Moment

variable {m : Moment} {p : PrintedPlaces}

/-- The pieces of the text of a timestamp. -/
def places (m : Moment) : PrintedPlaces where
  year := yearText m.wallClock.date.year
  month := zeroPadded 2 m.wallClock.date.month
  day := zeroPadded 2 m.wallClock.date.day
  hour := zeroPadded 2 m.wallClock.clock.hour
  minute := zeroPadded 2 m.wallClock.clock.minute
  second := zeroPadded 2 m.wallClock.clock.shownSecond
  fraction := m.wallClock.clock.fractionChars.tail
  offset := (m.offset?.map (offsetChars [':'])).getD []

theorem chars_places (m : Moment) (sep : Char) :
    m.places.chars sep = m.chars sep := by
  unfold PrintedPlaces.chars places chars
  simp only [Clock.pointed_fractionChars, Date.chars, Clock.chars,
    Clock.plainChars, List.append_assoc, List.cons_append]
  cases m.offset? <;> rfl

theorem places_wellFormed (hm : m.wallClock.Proper) : m.places.WellFormed := by
  obtain ⟨-, -, -, hmonth, -, hday⟩ := Date.isValid_iff.1 hm.date
  have hdayEnd :=
    Date.monthLength_le m.wallClock.date.year m.wallClock.date.month
  obtain ⟨hhour, hminute, hsecond, hnanos⟩ := Clock.isValid_iff.1 hm.clock
  have hshown : m.wallClock.clock.shownSecond ≤ 60 := by
    rcases Clock.shown_cases hm.clock hm.leap with ⟨hlt, -⟩ | ⟨heq, -⟩ <;> omega
  have hoffset : Stops FormItem.fraction.admits m.places.offset := by
    unfold places
    cases m.offset? with
    | none => exact stops_nil _
    | some offset =>
        simp only [Option.map_some, Option.getD_some, offsetChars,
          List.cons_append]
        rw [stops_cons]
        split <;> decide
  exact ⟨exists_cons_yearText _, twoDigits_zeroPadded (by omega),
    twoDigits_zeroPadded (by omega),
    twoDigits_zeroPadded (by omega), twoDigits_zeroPadded (by omega),
    twoDigits_zeroPadded (by omega),
    m.wallClock.clock.isDigit_of_mem_fraction, hoffset⟩

/-- What a template gets for a field of a timestamp. -/
def HasField (m : Moment) (name : String) (n : Int) : Prop :=
  (Template.Value.datetime m).member? name = some (.integer n)

/-- The fields of a timestamp up to the minute are the numbers at these places
of its text. -/
structure FieldsAt (m : Moment) (p : PrintedPlaces) : Prop where
  year : ∃ year, Numeral.readInt? p.year = some year ∧ m.HasField "year" year
  month : m.HasField "month" (Numeral.digitsValue p.month)
  day : m.HasField "day" (Numeral.digitsValue p.day)
  hour : m.HasField "hour" (Numeral.digitsValue p.hour)
  minute : m.HasField "minute" (Numeral.digitsValue p.minute)

/-- The fields below the minute are the numbers at these places, the fraction in
microseconds. -/
structure SecondsAt (m : Moment) (p : PrintedPlaces) : Prop where
  second : m.HasField "second" (Numeral.digitsValue p.second)
  microsecond : m.HasField "microsecond" p.microseconds

/-- The text that is shown and the ISO text are made of these pieces. -/
structure PrintedBy (m : Moment) (p : PrintedPlaces) : Prop where
  wellFormed : p.WellFormed
  shown : (Template.Value.datetime m).printed = p.chars ' '
  iso : Template.Evaluation.datetimeMethod m "isoformat" .none =
    .ok (.ofChars (p.chars 'T'))

theorem printedBy_places (hm : m.wallClock.Proper) : m.PrintedBy m.places := by
  have hshown : (Template.Value.datetime m).printed = m.chars ' ' :=
    String.toList_ofList
  have hiso : Template.Evaluation.datetimeMethod m "isoformat" .none =
      .ok (.ofChars m.isoText.toList) := rfl
  refine ⟨places_wellFormed hm, ?_, ?_⟩
  · rw [hshown, chars_places]
  · rw [hiso, isoText, String.toList_ofList, chars_places]

/-- There are no other pieces of which the text is made. -/
theorem PrintedBy.unique {q : PrintedPlaces} (hp : m.PrintedBy p)
    (hq : m.PrintedBy q) : p = q :=
  PrintedPlaces.chars_injective hp.wellFormed hq.wellFormed
    (hp.shown.symm.trans hq.shown)

theorem fieldsAt_places (m : Moment) : m.FieldsAt m.places := by
  refine ⟨⟨_, readInt?_yearText _, rfl⟩, ?_, ?_, ?_, ?_⟩
  all_goals
    unfold places
    rw [digitsValue_zeroPadded]
    rfl

theorem microseconds_places (m : Moment) :
    m.places.microseconds = m.wallClock.clock.shownNanos / 1000 :=
  m.wallClock.clock.fraction_scaled

/-- The fields that templates read are the numbers in the text, except in a leap
second.  The text of a timestamp that is read is cut into pieces in one way
only; the fields up to the minute are the numbers at their places, and so are
second and microsecond unless the text shows second 60.  Then the fields say
second 59 and a million microseconds more than the printed fraction. -/
theorem fields_printed {s : String} (h : ofText? s = some m) :
    ∃ p, m.PrintedBy p ∧ (∀ q, m.PrintedBy q → q = p) ∧ m.FieldsAt p ∧
      p.microseconds ≤ 999999 ∧
      (Numeral.digitsValue p.second < 60 → m.SecondsAt p) ∧
      (60 ≤ Numeral.digitsValue p.second → Numeral.digitsValue p.second = 60 ∧
        m.HasField "second" 59 ∧
        m.HasField "microsecond" (1000000 + p.microseconds)) := by
  have hproper := (proper_of_ofText? h).wallClock
  have hprinted := printedBy_places hproper
  have hshown : Numeral.digitsValue m.places.second =
      m.wallClock.clock.shownSecond :=
    digitsValue_zeroPadded
  have hsecond : m.HasField "second" m.wallClock.clock.second := rfl
  have hmicrosecond : m.HasField "microsecond"
      (m.wallClock.clock.nanos / 1000 : Nat) := rfl
  have hcases := Clock.shown_cases hproper.clock hproper.leap
  rw [← hshown, ← microseconds_places] at hcases
  refine ⟨m.places, hprinted, fun q hq => hq.unique hprinted, fieldsAt_places m,
    PrintedPlaces.microseconds_le hprinted.wellFormed, fun hlt =>
      ?_, fun hle => ?_⟩
  · rcases hcases with ⟨-, hsame, hnanos⟩ | ⟨hleap, -, -⟩
    · rw [hsame] at hsecond
      rw [hnanos] at hmicrosecond
      exact ⟨hsecond, hmicrosecond⟩
    · omega
  · rcases hcases with ⟨hplain, -, -⟩ | ⟨hleap, hlast, hnanos⟩
    · omega
    · rw [hlast] at hsecond
      rw [hnanos] at hmicrosecond
      exact ⟨hleap, hsecond, hmicrosecond⟩

/-- In a leap second of a year before the first, with a fraction and an
offset. -/
theorem fields_printed_lateMoment :
    ofText? "-44-3-15 23:29:60.5 -01:30" = some lateMoment ∧
      ∃ p, lateMoment.PrintedBy p ∧ lateMoment.FieldsAt p ∧
        Numeral.digitsValue p.second = 60 ∧
        lateMoment.HasField "second" 59 ∧
        lateMoment.HasField "microsecond" (1000000 + p.microseconds) := by
  have hread : ofText? "-44-3-15 23:29:60.5 -01:30" = some lateMoment := by
    decide +kernel
  obtain ⟨p, hprinted, hunique, hfields, -, -, hleap⟩ := fields_printed hread
  have hplaces :=
    hunique _ (printedBy_places (proper_of_ofText? hread).wallClock)
  have hshown : 60 ≤ Numeral.digitsValue p.second := by
    rw [← hplaces]
    decide +kernel
  exact ⟨hread, p, hprinted, hfields, hleap hshown⟩

/-- A leap second at the end of a year. -/
def leapMoment : Moment :=
  .naive ⟨⟨2016, 12, 31⟩, ⟨23, 59, 59, 1250000000⟩⟩

/-- Its text shows second 60 and a quarter of a second, its fields do not. -/
theorem leapMoment_not_secondsAt :
    ofText? "2016-12-31T23:59:60.25" = some leapMoment ∧
      leapMoment.text = "2016-12-31 23:59:60.250" ∧
      (∀ p, leapMoment.PrintedBy p → ¬ leapMoment.SecondsAt p) ∧
      ∀ n, leapMoment.HasField "microsecond" n → ¬ (0 ≤ n ∧ n ≤ 999999) := by
  have hread : ofText? "2016-12-31T23:59:60.25" = some leapMoment := by
    decide +kernel
  have hplaces := printedBy_places (proper_of_ofText? hread).wallClock
  have hsecond : (Template.Value.datetime leapMoment).member? "second" =
      some (.integer 59) := rfl
  have hmicrosecond :
      (Template.Value.datetime leapMoment).member? "microsecond" =
      some (.integer 1250000) := rfl
  refine ⟨hread, by decide +kernel, fun p hp hfields => ?_, fun n hn => ?_⟩
  · obtain rfl := hp.unique hplaces
    have hshown :=
      Template.Value.integer.inj
        (Option.some.inj (hsecond.symm.trans hfields.second))
    exact absurd hshown (by decide +kernel)
  · have hvalue :=
      Template.Value.integer.inj (Option.some.inj (hmicrosecond.symm.trans hn))
    omega

end Moment

end Stencil

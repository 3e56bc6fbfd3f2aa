/-
What separates a date from its time.  White space in a form stands for any white
space, none included, and an hour skips white space as well.  So day and hour
may run together once the day has both its digits, and whatever stands between
the two makes no difference.
-/
import Stencil.Proofs.Time.Zulu

namespace Stencil

open Text

/-- The pieces of a date and time around its day and its hour.  `front` ends
where the day begins, and `rest` begins behind the first colon. -/
structure DayAndHour where
  front : List Char
  day : List Char
  hour : List Char
  rest : List Char

namespace DayAndHour

/-- The text with something between day and hour. -/
def chars (t : DayAndHour) (gap : List Char) : List Char :=
  t.front ++ (t.day ++ (gap ++ (t.hour ++ ':' :: t.rest)))

/-- More text on both sides. -/
def pad (t : DayAndHour) (before after : List Char) : DayAndHour :=
  { t with front := before ++ t.front, rest := t.rest ++ after }

/-- The day stands behind a hyphen, and white space if there is any, and the
colon behind the hour is the first one. -/
structure WellFormed (t : DayAndHour) : Prop where
  front : ∃ before blanks, t.front = before ++ '-' :: blanks ∧ ':' ∉ before ∧
    ∀ c ∈ blanks, isBlank c = true
  day : TimeForm.IsField t.day
  hour : TimeForm.IsField t.hour

/-- A `T` with white space behind it, or white space alone. -/
inductive IsGap : List Char → Prop where
  | letter {blanks : List Char} (hblanks : ∀ c ∈ blanks, isBlank c = true) :
      IsGap ('T' :: blanks)
  | blanks {gap : List Char} (hblanks : ∀ c ∈ gap, isBlank c = true) : IsGap gap

/-- What may stand between day and hour.  It may be nothing if the day has two
digits. -/
structure Separates (t : DayAndHour) (gap : List Char) : Prop where
  isGap : IsGap gap
  joined : gap = [] → t.day.length = 2

variable {t : DayAndHour} {gap before after : List Char}

theorem chars_pad (t : DayAndHour) (gap before after : List Char) :
    (t.pad before after).chars gap = before ++ (t.chars gap ++ after) := by
  simp only [chars, pad, List.append_assoc, List.cons_append]

theorem separates_pad : (t.pad before after).Separates gap ↔ t.Separates gap :=
  ⟨fun h => ⟨h.isGap, h.joined⟩, fun h => ⟨h.isGap, h.joined⟩⟩

theorem WellFormed.pad (h : t.WellFormed) (hbefore : ':' ∉ before)
    (after : List Char) :
    (t.pad before after).WellFormed := by
  obtain ⟨⟨front, blanks, hfront, hcolon, hblanks⟩, hday, hhour⟩ := h
  refine ⟨⟨before ++ front, blanks, ?_, ?_, hblanks⟩, hday, hhour⟩
  · rw [DayAndHour.pad, hfront, List.append_assoc]
  · rw [List.mem_append, not_or]
    exact ⟨hbefore, hcolon⟩

theorem WellFormed.front_ne_nil (h : t.WellFormed) : t.front ≠ [] := by
  obtain ⟨front, blanks, hfront, -, -⟩ := h.front
  simp [hfront]

/-- Both ends of the text are the same with another gap. -/
theorem chars_eq_append (t : DayAndHour) (gap : List Char) :
    t.chars gap = t.front ++ (t.day ++ (gap ++ t.hour)) ++ ':' :: t.rest := by
  simp only [chars, List.append_assoc]

theorem WellFormed.stops_chars {p : Char → Bool} (h : t.WellFormed)
    (gap' : List Char) (hstops : Stops p (t.chars gap)) :
    Stops p (t.chars gap') :=
  stops_append_of_ne_nil h.front_ne_nil (stops_of_append hstops) _

theorem stops_reverse_chars {p : Char → Bool} (gap' : List Char)
    (hstops : Stops p (t.chars gap).reverse) :
    Stops p (t.chars gap').reverse := by
  rw [chars_eq_append, List.reverse_append] at hstops ⊢
  exact stops_append_of_ne_nil (by simp) (stops_of_append hstops) _

theorem colon_mem_chars (t : DayAndHour) (gap : List Char) :
    ':' ∈ t.chars gap := by
  simp [chars]

theorem gap_subset_chars (t : DayAndHour) (gap : List Char) :
    gap ⊆ t.chars gap := by
  intro c hc
  simp [chars, hc]

/-- Where there is no `T` and no white space, there is no gap. -/
theorem eq_nil_of_isGap (hgap : IsGap gap)
    (hnone : ∀ c ∈ gap, c ≠ 'T' ∧ isBlank c = false) :
    gap = [] := by
  cases hgap with
  | letter hblanks => exact absurd rfl (hnone 'T' List.mem_cons_self).1
  | blanks hblanks =>
      refine List.eq_nil_iff_forall_not_mem.2 fun c hc => ?_
      have hblank := hblanks c hc
      rw [(hnone c hc).2] at hblank
      contradiction

/-- What begins with a gap stops the digits of the day. -/
theorem Separates.day_ends (h : t.Separates gap) (more : List Char) :
    t.day.length = 2 ∨ Stops Char.isDigit (gap ++ more) := by
  obtain ⟨hgap, hjoined⟩ := h
  cases hgap with
  | letter hblanks => exact Or.inr (stops_cons.2 (by decide))
  | blanks hblanks =>
      cases gap with
      | nil => exact Or.inl (hjoined rfl)
      | cons c gap =>
          refine Or.inr (stops_cons.2 (Bool.eq_false_iff.2 fun hdigit => ?_))
          have hblank := hblanks c List.mem_cons_self
          rw [isBlank_eq_false_of_isDigit hdigit] at hblank
          contradiction

end DayAndHour

namespace TimeForm

open DayAndHour

variable {items : List FormItem} {f g : TimeFields} {cs rest more : List Char}
  {n : Nat}

/-- The text in front of a hyphen is read alike whatever stands behind the
hyphen. -/
theorem readItems?_hyphen (hblanks : .blanks ∉ items)
    (hoffset : .offset ∉ items)
    (h : readItems? items f (cs ++ '-' :: rest) = some (g, '-' :: rest))
    (more : List Char) :
    readItems? items f (cs ++ '-' :: more) = some (g, '-' :: more) := by
  have hcut : readItems? items f cs = some (g, []) :=
    readItems?_of_append hoffset h
  have hmore : Stops FormItem.fraction.admits ('-' :: more) :=
    stops_cons.2 (by decide)
  exact readItems?_append_text hblanks hoffset hmore hcut

/-- Items without day and hour leave both alone. -/
theorem readItems?_dayAndHour_eq (hday : .day ∉ items) (hhour : .hour ∉ items)
    (h : readItems? items f cs = some (g, rest)) :
    g.day = f.day ∧ g.hour = f.hour := by
  induction items generalizing f cs with
  | nil =>
      obtain ⟨rfl, -⟩ := Prod.mk.inj (Option.some.inj h)
      exact ⟨rfl, rfl⟩
  | cons item items ih =>
      rw [List.mem_cons, not_or] at hday hhour
      obtain ⟨next, more, hitem, hitems⟩ := readItems?_cons_eq_some_iff.1 h
      obtain ⟨hday', hhour'⟩ := ih hday.2 hhour.2 hitems
      have hkept : next.day = f.day ∧ next.hour = f.hour := by
        cases item with
        | day => exact absurd rfl hday.1
        | hour => exact absurd rfl hhour.1
        | blanks | literal =>
            obtain ⟨-, rfl⟩ := hitem
            exact ⟨rfl, rfl⟩
        | year | month | minute | second | fraction | offset =>
            obtain ⟨n, -, rfl⟩ := hitem
            exact ⟨rfl, rfl⟩
      exact ⟨hday'.trans hkept.1, hhour'.trans hkept.2⟩

/-- An hour that is read is the field in front of a colon, white space before it
aside. -/
theorem readItems?_hour_iff :
    readItems? (.hour :: .literal ':' :: items) f cs = some (g, rest) ↔
      ∃ blanks hour more, cs = blanks ++ (hour ++ ':' :: more) ∧
        (∀ c ∈ blanks, isBlank c = true) ∧ IsField hour ∧
        readItems? items { f with hour := Numeral.digitsValue hour } more =
          some (g, rest) := by
  constructor
  · intro h
    obtain ⟨next, afterHour, ⟨n, hread, rfl⟩, hcolon⟩ :=
      readItems?_cons_eq_some_iff.1 h
    obtain ⟨next, more, ⟨rfl, rfl⟩, hmore⟩ :=
      readItems?_cons_eq_some_iff.1 hcolon
    obtain ⟨blanks, hour, rfl, hblanks, hfield, -, rfl⟩ :=
      readField?_iff.1 hread
    exact ⟨blanks, hour, more, rfl, hblanks, hfield, hmore⟩
  · rintro ⟨blanks, hour, more, rfl, hblanks, hfield, hmore⟩
    have hstops : Stops Char.isDigit (':' :: more) := stops_cons.2 (by decide)
    have hread :=
      readField?_iff.2 ⟨blanks, hour, rfl, hblanks, hfield, Or.inr hstops, rfl⟩
    refine readItems?_cons_eq_some_iff.2 ⟨_, ':' :: more, ⟨_, hread, rfl⟩, ?_⟩
    exact readItems?_cons_eq_some_iff.2 ⟨_, more, ⟨rfl, rfl⟩, hmore⟩

/-- With one separator or the other an hour is read behind every gap. -/
theorem readItems?_gap_iff :
    (∃ separator ∈ separators,
      readItems? (separator :: .hour :: .literal ':' :: items) f cs =
        some (g, rest)) ↔
      ∃ gap hour more, cs = gap ++ (hour ++ ':' :: more) ∧ IsGap gap ∧
        IsField hour ∧
        readItems? items { f with hour := Numeral.digitsValue hour } more =
          some (g, rest) := by
  constructor
  · rintro ⟨separator, hseparator, h⟩
    simp only [separators, List.mem_cons, List.not_mem_nil,
      or_false] at hseparator
    rcases hseparator with rfl | rfl
    · obtain ⟨next, afterLetter, ⟨rfl, rfl⟩, hhour⟩ :=
        readItems?_cons_eq_some_iff.1 h
      obtain ⟨blanks, hour, more, rfl, hblanks, hrest⟩ :=
        readItems?_hour_iff.1 hhour
      exact ⟨'T' :: blanks, hour, more, rfl, .letter hblanks, hrest⟩
    · rw [readItems?_blanks_hour, readItems?_hour_iff] at h
      obtain ⟨blanks, hour, more, rfl, hblanks, hrest⟩ := h
      exact ⟨blanks, hour, more, rfl, .blanks hblanks, hrest⟩
  · rintro ⟨gap, hour, more, rfl, hgap, hrest⟩
    cases hgap with
    | letter hblanks =>
        have hhour := readItems?_hour_iff.2 ⟨_, hour, more, rfl, hblanks, hrest⟩
        exact ⟨.literal 'T', by decide,
          readItems?_cons_eq_some_iff.2 ⟨f, _, ⟨rfl, rfl⟩, hhour⟩⟩
    | blanks hblanks =>
        refine ⟨.blanks, by decide, ?_⟩
        rw [readItems?_blanks_hour, readItems?_hour_iff]
        exact ⟨gap, hour, more, rfl, hblanks, hrest⟩

/-- A date with a clock behind it is a day and an hour with a gap between them,
and the same items read it with any other gap. -/
theorem exists_dayAndHour {separator : FormItem}
    (hseparator : separator ∈ separators) (hday : .day ∉ items)
    (hhour : .hour ∉ items)
    (h : readItems? (date ++ ([separator, .hour] ++ (.literal ':' :: items)))
      {} cs = some (g, [])) :
    ∃ t gap, WellFormed t ∧ cs = t.chars gap ∧ t.Separates gap ∧
      Numeral.digitsValue t.day = g.day ∧ Numeral.digitsValue t.hour = g.hour ∧
      ∀ gap', t.Separates gap' → ∃ separator' ∈ separators,
        readItems? (date ++ ([separator', .hour] ++ (.literal ':' :: items))) {}
          (t.chars gap') =
          some (g, []) := by
  have hsplit : ∀ separator : FormItem,
      date ++ ([separator, .hour] ++ (.literal ':' :: items)) =
      [.year, .literal '-', .month] ++
        (.literal '-' :: .day :: separator :: .hour :: .literal ':' :: items) :=
          fun _ => rfl
  rw [hsplit] at h
  obtain ⟨dated, afterMonth, hmonth, hhyphen⟩ := readItems?_append_eq_some h
  obtain ⟨before, rfl, hbefore⟩ := not_mem_of_readItems? hmonth
  obtain ⟨dated, afterHyphen, ⟨rfl, rfl⟩, hdated⟩ :=
    readItems?_cons_eq_some_iff.1 hhyphen
  obtain ⟨next, afterDay, ⟨n, hread, rfl⟩, hclock⟩ :=
    readItems?_cons_eq_some_iff.1 hdated
  obtain ⟨blanks, day, rfl, hblanks, hfield, hstop, rfl⟩ :=
    readField?_iff.1 hread
  obtain ⟨gap, hour, rest, rfl, hgap, hfield', htail⟩ :=
    readItems?_gap_iff.1 ⟨separator, hseparator, hclock⟩
  obtain ⟨hsame, hsame'⟩ := readItems?_dayAndHour_eq hday hhour htail
  have hjoined : gap = [] → day.length = 2 := by
    rintro rfl
    refine hstop.resolve_right fun hstops => ?_
    obtain ⟨c, digits, rfl⟩ := List.exists_cons_of_ne_nil hfield'.nonempty
    have hc := hfield'.digits c List.mem_cons_self
    rw [stops_cons.1 hstops] at hc
    contradiction
  refine ⟨⟨before ++ '-' :: blanks, day, hour, rest⟩, gap,
    ⟨⟨before, blanks, rfl, hbefore ':' (by decide), hblanks⟩, hfield, hfield'⟩,
    ?_, ⟨hgap, hjoined⟩, hsame.symm, hsame'.symm, fun gap' hgap' => ?_⟩
  · simp only [chars, List.append_assoc, List.cons_append]
  · obtain ⟨separator', hseparator', hclock'⟩ :=
      readItems?_gap_iff.2 ⟨gap', hour, rest, rfl, hgap'.isGap, hfield', htail⟩
    have hstop' := hgap'.day_ends (hour ++ ':' :: rest)
    have hread' :=
      readField?_iff.2 ⟨blanks, day, rfl, hblanks, hfield, hstop', rfl⟩
    refine ⟨separator', hseparator', ?_⟩
    rw [hsplit, chars, List.append_assoc, readItems?_append, List.cons_append,
      readItems?_hyphen (by decide) (by decide) hmonth, Option.bind_some]
    exact readItems?_cons_eq_some_iff.2 ⟨dated, _, ⟨rfl, rfl⟩,
      readItems?_cons_eq_some_iff.2 ⟨_, _, ⟨_, hread', rfl⟩, hclock'⟩⟩

end TimeForm

namespace FormGroup

open TimeForm DayAndHour

variable {group : FormGroup} {form : TimeForm} {f : TimeFields} {m : Moment}
  {cs : List Char}

/-- A group of forms with a clock has the same forms for both separators. -/
theorem exists_of_mem_forms (hgroup : group ≠ date)
    (hform : form ∈ group.forms) :
    ∃ separator ∈ separators, ∃ items, .day ∉ items ∧ .hour ∉ items ∧
      form = TimeForm.date ++ ([separator, .hour] ++ (.literal ':' :: items)) ∧
      ∀ separator' ∈ separators,
        TimeForm.date ++ ([separator', .hour] ++ (.literal ':' :: items)) ∈
          group.forms := by
  have htails : ∀ ending ∈ [[], [FormItem.offset]], ∀ tail ∈ clockTails,
      .day ∉ FormItem.minute :: (tail ++ ending) ∧
        .hour ∉ FormItem.minute :: (tail ++ ending) := by
    decide
  cases group with
  | date => contradiction
  | naive =>
      have hmem : ∀ tail ∈ clockTails, ∀ separator' ∈ separators,
          TimeForm.date ++
            ([separator', .hour] ++ (.literal ':' :: .minute :: tail)) ∈
            naiveForms := by
        decide
      obtain ⟨separator, hseparator, tail, htail, rfl⟩ :=
        exists_of_mem_naiveForms hform
      obtain ⟨hday, hhour⟩ := htails [] (by decide) tail htail
      rw [List.append_nil] at hday hhour
      exact ⟨separator, hseparator, .minute :: tail, hday, hhour, rfl,
        hmem tail htail⟩
  | zoned =>
      have hmem : ∀ tail ∈ clockTails, ∀ separator' ∈ separators,
          TimeForm.date ++
            ([separator', .hour] ++
              (.literal ':' :: .minute :: (tail ++ [.offset]))) ∈
            zonedForms := by decide
      obtain ⟨plain, hplain, rfl⟩ := exists_of_mem_zonedForms hform
      obtain ⟨separator, hseparator, tail, htail, rfl⟩ :=
        exists_of_mem_naiveForms hplain
      obtain ⟨hday, hhour⟩ := htails [.offset] (by decide) tail htail
      exact ⟨separator, hseparator, .minute :: (tail ++ [.offset]), hday, hhour,
        rfl, hmem tail htail⟩

/-- The wall clock of what a group makes is what the fields say. -/
theorem dateTime?_of_moment? (hf : Bounded f) (h : group.moment? f = some m) :
    f.dateTime? = some m.wallClock := by
  cases group with
  | naive | date =>
      obtain ⟨wall, htime, rfl⟩ := Option.map_eq_some_iff.1 h
      exact htime
  | zoned =>
      obtain ⟨wall, htime, hwall⟩ := Option.bind_eq_some_iff.1 h
      have hproper := proper_of_dateTime? hf htime
      rw [htime,
        (Moment.wallClock_ofWallClock? hproper.date hproper.clock hf.offset.lt
          hwall).1]

theorem dayAndHour_of_dateTime? {wall : DateTime}
    (h : f.dateTime? = some wall) :
    wall.date.day = f.day ∧ wall.clock.hour = f.hour := by
  unfold TimeFields.dateTime? at h
  split at h
  next =>
      obtain rfl := Option.some.inj h
      refine ⟨rfl, ?_⟩
      unfold TimeFields.clock
      split <;> rfl
  next => contradiction

end FormGroup

namespace Moment

open TimeForm FormGroup DayAndHour

variable {cs before after : List Char} {m : Moment}

/-- The text has the day and the hour of the timestamp, and it is read as the
timestamp whatever stands between the two. -/
def ReadAcross (cs : List Char) (m : Moment) : Prop :=
  ∃ t gap, WellFormed t ∧ cs = t.chars gap ∧ t.Separates gap ∧
    Numeral.digitsValue t.day = m.wallClock.date.day ∧
    Numeral.digitsValue t.hour = m.wallClock.clock.hour ∧
    ∀ gap', t.Separates gap' → ofChars? (t.chars gap') = some m

theorem ofChars?_padded (hbefore : ∀ c ∈ before, isBlank c = true)
    (hafter : ∀ c ∈ after, isBlank c = true) (cs : List Char) :
    ofChars? (before ++ (cs ++ after)) = ofChars? cs := by
  rw [ofChars?, ofChars?, trimBlanks, trimBlanks,
    trimWhere_padded hbefore hafter]

theorem ReadAcross.pad (h : ReadAcross cs m)
    (hbefore : ∀ c ∈ before, isBlank c = true)
    (hafter : ∀ c ∈ after, isBlank c = true) :
    ReadAcross (before ++ (cs ++ after)) m := by
  obtain ⟨t, gap, hwell, rfl, hgap, hday, hhour, hread⟩ := h
  have hcolon : ':' ∉ before := not_mem_of_class hbefore (by decide)
  refine ⟨t.pad before after, gap, hwell.pad hcolon after,
    (chars_pad t gap before after).symm,
    separates_pad.2 hgap, hday, hhour, fun gap' hgap' => ?_⟩
  rw [chars_pad, ofChars?_padded hbefore hafter]
  exact hread gap' (separates_pad.1 hgap')

/-- A Zulu designator is behind the hour, so it does not matter here. -/
theorem ReadAcross.zulu {designator : Char} {wall : DateTime}
    (h : ReadAcross cs (.naive wall))
    (hdesignator : designator = 'Z' ∨ designator = 'z') (hwall : wall.Proper) :
    ReadAcross (cs ++ [designator]) (.zoned wall 0) := by
  obtain ⟨t, gap, hwell, rfl, hgap, hday, hhour, hread⟩ := h
  have hsame : (Moment.zoned wall 0).wallClock = wall :=
    (wallClock_ofWallClock? hwall.date hwall.clock (by decide)
      (ofWallClock?_zero hwall)).1
  refine ⟨t.pad [] [designator], gap, hwell.pad (by simp) _,
    (chars_pad t gap [] _).symm,
    separates_pad.2 hgap, ?_, ?_, fun gap' hgap' => ?_⟩
  · rw [hsame]
    exact hday
  · rw [hsame]
    exact hhour
  · rw [chars_pad, List.nil_append, ofChars?_zulu hdesignator]
    exact ofChars?_zeroOffset (hread gap' (separates_pad.1 hgap'))
      (colon_mem_chars t gap')

/-- Whether a text ends in a Zulu designator does not depend on its head. -/
theorem beforeZulu?_append_eq_none_iff {tail : List Char} (hne : tail ≠ [])
    (cs : List Char) :
    beforeZulu? (cs ++ tail) = none ↔ beforeZulu? tail = none := by
  have hsplit := List.dropLast_concat_getLast hne
  unfold beforeZulu?
  rw [← hsplit, ← List.append_assoc]
  simp

theorem exists_designator_of_beforeZulu? (h : beforeZulu? cs = some before) :
    ∃ designator, cs = before ++ [designator] ∧
      (designator = 'Z' ∨ designator = 'z') := by
  unfold beforeZulu? at h
  split at h
  next c back hreverse =>
      split at h
      next hdesignator =>
          obtain rfl := Option.some.inj h
          rw [List.reverse_eq_iff, List.reverse_cons] at hreverse
          exact ⟨c, hreverse, hdesignator⟩
      next => contradiction
  next => contradiction

/-- A text without white space around it and without a Zulu designator. -/
theorem readAcross_of_ofTrimmed? (hhead : Stops isBlank cs)
    (hlast : Stops isBlank cs.reverse) (hzulu : beforeZulu? cs = none)
    (h : ofTrimmed? cs = some m) (hcolon : ':' ∈ cs) :
    ReadAcross cs m := by
  obtain ⟨group, form, hform, haccept⟩ := (ofTrimmed?_eq_some_iff hzulu).1 h
  obtain ⟨f, hread, hmoment⟩ := Option.bind_eq_some_iff.1 haccept
  have hgroup : group ≠ .date := by
    rintro rfl
    obtain rfl := List.mem_singleton.1 hform
    exact colon_not_mem_of_date hread hcolon
  obtain ⟨separator, hseparator, items, hday, hhour, rfl, hforms⟩ :=
    exists_of_mem_forms hgroup hform
  obtain ⟨t, gap, hwell, rfl, hgap, hdayValue, hhourValue, hacross⟩ :=
    exists_dayAndHour hseparator hday hhour (readItems?_of_read? hread)
  obtain ⟨hsame, hsame'⟩ :=
    dayAndHour_of_dateTime?
      (dateTime?_of_moment? (bounded_of_read? hread) hmoment)
  refine ⟨t, gap, hwell, rfl, hgap, hdayValue.trans hsame.symm,
    hhourValue.trans hsame'.symm, fun gap' hgap' => ?_⟩
  -- another gap leaves the ends of the text as they are
  have htrim : trimBlanks (t.chars gap') = t.chars gap' :=
    trimWhere_eq_self (hwell.stops_chars gap' hhead)
      (stops_reverse_chars gap' hlast)
  have hzulu' : beforeZulu? (t.chars gap') = none := by
    rw [chars_eq_append,
      beforeZulu?_append_eq_none_iff (List.cons_ne_nil _ _)] at hzulu ⊢
    exact hzulu
  obtain ⟨separator', hseparator', hread'⟩ := hacross gap' hgap'
  have hform' := hforms separator' hseparator'
  rw [ofChars?, htrim,
    ofTrimmed?_of_read? hzulu' hform' (by rw [read?, hread']), hmoment]

theorem readAcross_of_beforeZulu?_none
    (hzulu : beforeZulu? (trimBlanks cs) = none) (h : ofChars? cs = some m)
    (hcolon : ':' ∈ cs) : ReadAcross cs m := by
  obtain ⟨before, after, hcs, hbefore, hafter, hhead⟩ :=
    exists_trimWhere isBlank cs
  have hcore :=
    readAcross_of_ofTrimmed? hhead (stops_reverse_trimWhere isBlank cs) hzulu h
      (mem_trimWhere hcolon (by decide))
  rw [hcs]
  exact hcore.pad hbefore hafter

theorem readAcross_of_ofChars? (h : ofChars? cs = some m) (hcolon : ':' ∈ cs) :
    ReadAcross cs m := by
  cases hzulu : beforeZulu? (trimBlanks cs) with
  | none => exact readAcross_of_beforeZulu?_none hzulu h hcolon
  | some base =>
      obtain ⟨before, after, hcs, hbefore, hafter, -⟩ :=
        exists_trimWhere isBlank cs
      obtain ⟨designator, hcore, hdesignator⟩ :=
        exists_designator_of_beforeZulu? hzulu
      rw [trimBlanks] at hcore
      rw [hcs, hcore] at h ⊢
      rw [ofChars?_padded hbefore hafter, ofChars?_zulu hdesignator] at h
      obtain ⟨wall, hnaive, hcolon', rfl⟩ := exists_naive_of_zeroOffset h
      have hwall : wall.Proper := proper_of_ofChars? hnaive
      have hbase :=
        readAcross_of_beforeZulu?_none
          (beforeZulu?_of_naive hnaive) hnaive hcolon'
      exact (hbase.zulu hdesignator hwall).pad hbefore hafter

/-- What separates date and time makes no difference, and nothing need separate
them.  A text with a time of day has the day and the hour of its timestamp in
it.  Between them stands a `T` with white space behind it, or white space, or
nothing if the day has two digits, and with any other of these the text is read
as the same timestamp. -/
theorem ofText?_any_gap {s : String} (h : ofText? s = some m)
    (hcolon : ':' ∈ s.toList) :
    ∃ t gap, WellFormed t ∧ s.toList = t.chars gap ∧ t.Separates gap ∧
      Numeral.digitsValue t.day = m.wallClock.date.day ∧
      Numeral.digitsValue t.hour = m.wallClock.clock.hour ∧
      ∀ gap', t.Separates gap' →
        ofText? (String.ofList (t.chars gap')) = some m := by
  obtain ⟨t, gap, hwell, htext, hgap, hday, hhour, hread⟩ :=
    readAcross_of_ofChars? h hcolon
  refine ⟨t, gap, hwell, htext, hgap, hday, hhour, fun gap' hgap' => ?_⟩
  rw [ofText?, String.toList_ofList]
  exact hread gap' hgap'

/-- A day and an hour that run together. -/
def joinedText : String := "2024-03-0507:08:09"

theorem ofText?_joinedText :
    ofText? joinedText = some (.naive ⟨⟨2024, 3, 5⟩, ⟨7, 8, 9, 0⟩⟩) := by
  decide +kernel

theorem gap_eq_nil_of_joinedText {t : DayAndHour} {gap : List Char}
    (htext : joinedText.toList = t.chars gap) (hgap : t.Separates gap) :
    gap = [] := by
  have hplain : ∀ c ∈ joinedText.toList, c ≠ 'T' ∧ isBlank c = false :=
    forall_mem_of_all (by decide)
  refine eq_nil_of_isGap hgap.isGap fun c hc => hplain c ?_
  rw [htext]
  exact gap_subset_chars t gap hc

/-- The hour of the joined text is read whatever is put in front of it. -/
theorem ofText?_any_gap_joinedText :
    ∃ t, WellFormed t ∧ joinedText.toList = t.chars [] ∧ t.day.length = 2 ∧
      ∀ gap, t.Separates gap → ofText? (String.ofList (t.chars gap)) =
        some (.naive ⟨⟨2024, 3, 5⟩, ⟨7, 8, 9, 0⟩⟩) := by
  obtain ⟨t, gap, hwell, htext, hgap, -, -, hread⟩ :=
    ofText?_any_gap ofText?_joinedText (by decide)
  have hnone : gap = [] := gap_eq_nil_of_joinedText htext hgap
  rw [hnone] at htext
  exact ⟨t, hwell, htext, hgap.joined hnone, hread⟩

/-- Nothing separates date and time in the joined text. -/
theorem joinedText_not_separated :
    ofText? joinedText = some (.naive ⟨⟨2024, 3, 5⟩, ⟨7, 8, 9, 0⟩⟩) ∧
      ¬ ∃ t gap, WellFormed t ∧ joinedText.toList = t.chars gap ∧
        t.Separates gap ∧ gap ≠ [] := by
  refine ⟨ofText?_joinedText, ?_⟩
  rintro ⟨t, gap, -, htext, hgap, hne⟩
  exact hne (gap_eq_nil_of_joinedText htext hgap)

end Moment

end Stencil

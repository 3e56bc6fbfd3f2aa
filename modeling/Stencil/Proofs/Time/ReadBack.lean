/-
Timestamps read back.  The form with a fraction finds the fields of a proper
timestamp in its text, and whatever form reads a text decides the timestamp.
-/
import Stencil.Proofs.Time.Offset

namespace Stencil

open Text

namespace TimeForm

theorem isPrefixOf?_self (c : Char) (rest : List Char) :
    [c].isPrefixOf? (c :: rest) = some rest :=
  isPrefixOf?_append [c] rest

/-- The date of a text sets the date fields. -/
theorem readItems?_date {d : Date} (hd : d.isValid = true)
    (items : List FormItem) (f : TimeFields) (rest : List Char) :
    readItems? (date ++ items) f (d.chars ++ rest) =
      readItems? items { f with year := d.year, month := d.month, day := d.day }
        rest := by
  obtain ⟨-, -, -, hmonth, -, hday⟩ := Date.isValid_iff.1 hd
  have hdayEnd := Date.monthLength_le d.year d.month
  have hdash : Stops Char.isDigit
      ('-' :: (zeroPadded 2 d.month ++ '-' :: (zeroPadded 2 d.day ++ rest))) :=
    stops_cons.2 (by decide)
  have hyear := readYear?_yearText d.year hdash
  have hreadMonth := readField?_zeroPadded (n := d.month) (by omega)
    ('-' :: (zeroPadded 2 d.day ++ rest))
  have hreadDay := readField?_zeroPadded (n := d.day) (by omega) rest
  simp only [date, Date.chars, List.cons_append, List.nil_append,
    List.append_assoc, readItems?.eq_2, readItem?, hyear, hreadMonth, hreadDay,
    isPrefixOf?_self, Option.map_some, Option.bind_eq_bind, Option.bind_some]

theorem readItems?_hourMinute {hour minute : Nat} (hhour : hour < 100)
    (hminute : minute < 100) (items : List FormItem) (f : TimeFields)
    (rest : List Char) :
    readItems? (.hour :: .literal ':' :: .minute :: items) f
        (zeroPadded 2 hour ++ ':' :: (zeroPadded 2 minute ++ rest)) =
      readItems? items { f with hour := hour, minute := minute } rest := by
  simp only [readItems?.eq_2, readItem?, readField?_zeroPadded hhour,
    readField?_zeroPadded hminute, isPrefixOf?_self, Option.map_some,
    Option.bind_eq_bind, Option.bind_some]

/-- The clock without its fraction sets the clock fields. -/
theorem readItems?_plainChars {c : Clock} (hc : c.isValid = true)
    (items : List FormItem) (f : TimeFields) (rest : List Char) :
    readItems?
      (.hour :: .literal ':' :: .minute :: .literal ':' :: .second :: items) f
        (c.plainChars ++ rest) =
      readItems? items
        { f with hour := c.hour, minute := c.minute, second := c.shownSecond }
        rest := by
  obtain ⟨hhour, hminute, hsecond, hnanos⟩ := Clock.isValid_iff.1 hc
  have hshown : c.shownSecond < 100 := by
    unfold Clock.shownSecond
    unfold secondNanos at hnanos ⊢
    omega
  simp only [Clock.plainChars, List.cons_append, List.append_assoc]
  rw [readItems?_hourMinute (by omega) (by omega)]
  simp only [readItems?.eq_2, readItem?, readField?_zeroPadded hshown,
    isPrefixOf?_self, Option.map_some, Option.bind_eq_bind, Option.bind_some]

/-- The items of a clock with a fraction. -/
def fullClock : TimeForm :=
  [.hour, .literal ':', .minute, .literal ':', .second, .fraction]

theorem readItems?_clock {c : Clock} (hc : c.isValid = true) (f : TimeFields) :
    readItems? fullClock f c.chars = some ({ f with
      hour := c.hour, minute := c.minute, second := c.shownSecond, fraction :=
        c.shownNanos }, []) := by
  have hfraction := readFraction?_fractionChars c (stops_nil _) (by simp)
  rw [List.append_nil] at hfraction
  rw [fullClock, Clock.chars, readItems?_plainChars hc]
  simp only [readItems?, readItem?, hfraction, Option.map_some,
    Option.bind_eq_bind, Option.bind_some]

theorem stops_blank_clock (c : Clock) : Stops isBlank c.chars := by
  rw [Clock.chars, Clock.plainChars, List.append_assoc, List.append_assoc]
  exact stops_blank_zeroPadded 2 c.hour _

/-- The item that takes a character between date and clock. -/
def separatorItem (sep : Char) : FormItem :=
  if sep = 'T' then .literal 'T' else .blanks

theorem readItems?_separatorItem {sep : Char} (hsep : sep = ' ' ∨ sep = 'T')
    (items : List FormItem) (f : TimeFields) (hrest : Stops isBlank rest) :
    readItems? (separatorItem sep :: items) f (sep :: rest) =
      readItems? items f rest := by
  rcases hsep with rfl | rfl
  · have hskip : (' ' :: rest).dropWhile isBlank = rest := by
      have hrun : ∀ c ∈ [' '], isBlank c = true := forall_mem_of_all (by decide)
      exact dropWhile_run hrun hrest
    simp [separatorItem, readItems?, readItem?, hskip]
  · simp [separatorItem, readItems?, readItem?, isPrefixOf?_self]

/-- The text of a reading without an offset. -/
def wallChars (sep : Char) (wall : DateTime) : List Char :=
  wall.date.chars ++ sep :: wall.clock.chars

/-- The fields of a reading with an offset. -/
def fieldsOf (wall : DateTime) (offset : Int) : TimeFields where
  year := wall.date.year
  month := wall.date.month
  day := wall.date.day
  hour := wall.clock.hour
  minute := wall.clock.minute
  second := wall.clock.shownSecond
  fraction := wall.clock.shownNanos
  offset := offset

/-- The fields of a proper reading make that reading. -/
theorem dateTime?_fieldsOf {wall : DateTime} (hwall : wall.Proper)
    (offset : Int) :
    (fieldsOf wall offset).dateTime? = some wall := by
  obtain ⟨d, hour, minute, second, nanos⟩ := wall
  obtain ⟨hdate, hclock, hleap⟩ := hwall
  obtain ⟨-, -, hsecond, hnanos⟩ := Clock.isValid_iff.1 hclock
  simp only at hdate hleap hsecond hnanos
  have hfields : (fieldsOf ⟨d, ⟨hour, minute, second, nanos⟩⟩ offset).clock =
      ⟨hour, minute, second, nanos⟩ := by
    unfold TimeFields.clock fieldsOf Clock.shownSecond Clock.shownNanos
    simp only
    by_cases hlate : secondNanos ≤ nanos
    · have hlast := hleap hlate
      unfold secondNanos at hlate hnanos ⊢
      rw [if_pos (by omega), Clock.mk.injEq]
      omega
    · unfold secondNanos at hlate ⊢
      rw [if_neg (by omega), Clock.mk.injEq]
      omega
  unfold TimeFields.dateTime?
  rw [hfields]
  have hsame : (fieldsOf ⟨d, ⟨hour, minute, second, nanos⟩⟩ offset).date =
      d := rfl
  rw [hsame, hdate, hclock]
  rfl

theorem mem_naiveForms {sep : Char} (hsep : sep = ' ' ∨ sep = 'T') :
    date ++ separatorItem sep :: fullClock ∈ naiveForms := by
  rcases hsep with rfl | rfl <;> decide

/-- The form with a fraction finds the fields of a reading. -/
theorem read?_wallChars {sep : Char} (hsep : sep = ' ' ∨ sep = 'T')
    {wall : DateTime} (hwall : wall.Proper) :
    read? (date ++ separatorItem sep :: fullClock) (wallChars sep wall) =
      some (fieldsOf wall 0) := by
  rw [read?, wallChars, readItems?_date hwall.date,
    readItems?_separatorItem hsep _ _ (stops_blank_clock _),
    readItems?_clock hwall.clock]
  rfl

theorem read?_wallChars_offset {sep : Char} (hsep : sep = ' ' ∨ sep = 'T')
    {wall : DateTime} (hwall : wall.Proper) {offset : Int}
    (hoffset : IsOffset offset) :
    read? (date ++ separatorItem sep :: fullClock ++ [.offset])
      (wallChars sep wall ++ offsetChars [':'] offset) =
        some (fieldsOf wall offset) := by
  obtain ⟨sign, hours, minutes, hsign, hhours, hminutes, htext, hseconds⟩ :=
    exists_offsetText hoffset
  have hread := read?_offset (mem_naiveForms hsep) (read?_wallChars hsep hwall)
    (List.forall_mem_nil _) hsign hhours hminutes
  rw [List.nil_append, hseconds] at hread
  rw [htext]
  exact hread

end TimeForm

namespace Moment

open TimeForm

variable {sep : Char} {m : Moment}

theorem chars_naive (sep : Char) (wall : DateTime) :
    (naive wall).chars sep = wallChars sep wall := by
  rw [chars, wallClock, offset?]
  exact List.append_nil _

theorem chars_ofWallClock? {wall : DateTime} {offset : Int}
    (hwall : wall.Proper) (hoffset : IsOffset offset)
    (h : ofWallClock? wall offset = some m) :
    m.chars sep = wallChars sep wall ++ offsetChars [':'] offset := by
  obtain ⟨hclock, hkept⟩ :=
    wallClock_ofWallClock? hwall.date hwall.clock hoffset.lt h
  rw [chars, hclock, hkept]
  simp only [wallChars]

theorem endsInDigit_clock (c : Clock) : EndsInDigit c.chars := by
  rw [Clock.chars]
  rcases fractionChars_cases c with ⟨hchars, -⟩ | ⟨width, n, -, -, hchars, -⟩
  · rw [hchars, List.append_nil]
    exact ((endsInDigit_zeroPadded 2 _).cons ':').append _
  · rw [hchars]
    exact ((endsInDigit_zeroPadded width n).cons '.').append _

theorem endsInDigit_chars (sep : Char) (m : Moment) :
    EndsInDigit (m.chars sep) := by
  unfold chars
  simp only
  cases m.offset? with
  | some offset => exact ((endsInDigit_zeroPadded 2 _).append _).append _
  | none =>
      simp only [List.append_nil]
      exact ((endsInDigit_clock _).cons sep).append _

/-- There is nothing to trim from the text of a timestamp. -/
theorem trimBlanks_chars (sep : Char) (m : Moment) :
    trimBlanks (m.chars sep) = m.chars sep := by
  apply trimWhere_eq_self
  · unfold chars
    simp only [Date.chars, List.append_assoc]
    unfold yearText
    split_ifs
    · exact stops_blank_zeroPadded 4 _ _
    · exact stops_cons.2 (by decide)
    · exact stops_cons.2 (by decide)
  · obtain ⟨before, c, hchars, hc⟩ := endsInDigit_chars sep m
    rw [hchars, List.reverse_append]
    exact stops_cons.2 (isBlank_eq_false_of_isDigit hc)

theorem ofTrimmed?_of_proper (hsep : sep = ' ' ∨ sep = 'T') (hm : m.Proper) :
    ofTrimmed? (m.chars sep) = some m := by
  have hzulu := beforeZulu?_of_endsInDigit (endsInDigit_chars sep m)
  cases m with
  | naive wall =>
      rw [chars_naive] at hzulu ⊢
      have hform : date ++ separatorItem sep :: fullClock ∈
          FormGroup.naive.forms :=
        mem_naiveForms hsep
      rw [ofTrimmed?_of_read? hzulu hform (read?_wallChars hsep hm),
        FormGroup.moment?, dateTime?_fieldsOf hm, Option.map_some]
  | zoned utc offset =>
      obtain ⟨hoffset, wall, hwall, hof⟩ := hm
      rw [chars_ofWallClock? hwall hoffset hof] at hzulu ⊢
      have hform : date ++ separatorItem sep :: fullClock ++ [.offset] ∈
          FormGroup.zoned.forms :=
        List.mem_map_of_mem (mem_naiveForms hsep)
      rw [ofTrimmed?_of_read? hzulu hform
          (read?_wallChars_offset hsep hwall hoffset),
        FormGroup.moment?, dateTime?_fieldsOf hwall, Option.bind_some]
      exact hof

/-- A timestamp that is read is read again from its text, with either character
between date and clock. -/
theorem ofChars?_chars {s : String} (h : ofText? s = some m)
    (hsep : sep = ' ' ∨ sep = 'T') :
    ofChars? (m.chars sep) = some m := by
  rw [ofChars?, trimBlanks_chars]
  exact ofTrimmed?_of_proper hsep (proper_of_ofText? h)

end Moment

end Stencil

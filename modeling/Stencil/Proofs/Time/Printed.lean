/-
The texts of timestamps.  The text that is shown and the ISO text differ in the
one character between date and time.  Both are what patterns write, and every
timestamp that is read is read again from either.
-/
import Stencil.Proofs.Time.ReadBack
import Stencil.Template.Evaluation

namespace Stencil

open Text

/-- The characters of dates, clocks and offsets. -/
def isTimeChar (c : Char) : Bool :=
  c.isDigit || c == '-' || c == '+' || c == ':' || c == '.'

theorem isTimeChar_of_mem_zeroPadded {width n : Nat} {c : Char}
    (hc : c ∈ zeroPadded width n) :
    isTimeChar c = true := by
  simp [isTimeChar, isDigit_of_mem_zeroPadded c hc]

theorem Date.isTimeChar_of_mem_chars (d : Date) :
    ∀ c ∈ d.chars, isTimeChar c = true := by
  have hyear : ∀ c ∈ yearText d.year, isTimeChar c = true := by
    intro c hc
    unfold yearText at hc
    split_ifs at hc
    · exact isTimeChar_of_mem_zeroPadded hc
    · rcases List.mem_cons.1 hc with rfl | hc
      · rfl
      · exact isTimeChar_of_mem_zeroPadded hc
    · rcases List.mem_cons.1 hc with rfl | hc
      · rfl
      · exact isTimeChar_of_mem_zeroPadded hc
  intro c hc
  simp only [chars, List.mem_append, List.mem_cons] at hc
  rcases hc with (hc | rfl | hc) | rfl | hc
  · exact hyear c hc
  · rfl
  · exact isTimeChar_of_mem_zeroPadded hc
  · rfl
  · exact isTimeChar_of_mem_zeroPadded hc

theorem Clock.isTimeChar_of_mem_chars (clock : Clock) :
    ∀ c ∈ clock.chars, isTimeChar c = true := by
  have hfraction : ∀ c ∈ clock.fractionChars, isTimeChar c = true := by
    intro c hc
    rcases TimeForm.fractionChars_cases clock with
      ⟨hchars, -⟩ | ⟨width, n, -, -, hchars, -⟩
    · rw [hchars] at hc
      cases hc
    · rw [hchars] at hc
      rcases List.mem_cons.1 hc with rfl | hc
      · rfl
      · exact isTimeChar_of_mem_zeroPadded hc
  intro c hc
  simp only [chars, plainChars, List.mem_append, List.mem_cons] at hc
  rcases hc with ((hc | rfl | hc) | rfl | hc) | hc
  · exact isTimeChar_of_mem_zeroPadded hc
  · rfl
  · exact isTimeChar_of_mem_zeroPadded hc
  · rfl
  · exact isTimeChar_of_mem_zeroPadded hc
  · exact hfraction c hc

theorem isTimeChar_of_mem_offsetChars (offset : Int) :
    ∀ c ∈ offsetChars [':'] offset, isTimeChar c = true := by
  intro c hc
  simp only [offsetChars, List.mem_append, List.mem_cons, List.not_mem_nil,
    or_false] at hc
  rcases hc with ((rfl | hc) | rfl) | hc
  · split <;> rfl
  · exact isTimeChar_of_mem_zeroPadded hc
  · rfl
  · exact isTimeChar_of_mem_zeroPadded hc

namespace Moment

/-- The separator is the only character that is not one of a date, a clock or an
offset. -/
theorem exists_chars_eq (m : Moment) :
    ∃ before after, (∀ sep, m.chars sep = before ++ sep :: after) ∧
      (∀ c ∈ before, isTimeChar c = true) ∧ ∀ c ∈ after,
        isTimeChar c = true := by
  have hdate := m.wallClock.date.isTimeChar_of_mem_chars
  have hclock := m.wallClock.clock.isTimeChar_of_mem_chars
  cases hoffset : m.offset? with
  | none =>
      refine ⟨m.wallClock.date.chars, m.wallClock.clock.chars, fun sep =>
        ?_, hdate, hclock⟩
      simp [chars, hoffset]
  | some offset =>
      refine ⟨m.wallClock.date.chars,
        m.wallClock.clock.chars ++ offsetChars [':'] offset,
        fun sep => ?_, hdate, ?_⟩
      · simp [chars, hoffset]
      · intro c hc
        rcases List.mem_append.1 hc with hc | hc
        · exact hclock c hc
        · exact isTimeChar_of_mem_offsetChars offset c hc

theorem count_blank_chars (m : Moment) : (m.chars ' ').count ' ' = 1 := by
  obtain ⟨before, after, hchars, hbefore, hafter⟩ := m.exists_chars_eq
  have hnone : ∀ cs : List Char, (∀ c ∈ cs, isTimeChar c = true) →
      cs.count ' ' = 0 := fun cs hcs =>
    List.count_eq_zero.2 (not_mem_of_class hcs (by decide))
  rw [hchars, List.count_append, List.count_cons_self, hnone before hbefore,
    hnone after hafter]

/-- A `T` in place of the blank, and all else as it is. -/
theorem map_chars (m : Moment) :
    (m.chars ' ').map (fun c => if c = ' ' then 'T' else c) = m.chars 'T' := by
  obtain ⟨before, after, hchars, hbefore, hafter⟩ := m.exists_chars_eq
  have hkept : ∀ cs : List Char, (∀ c ∈ cs, isTimeChar c = true) →
      cs.map (fun c => if c = ' ' then 'T' else c) = cs := by
    intro cs hcs
    refine (List.map_congr_left fun c hc => ?_).trans (List.map_id cs)
    exact if_neg (ne_of_class (hcs c hc) (by decide))
  rw [hchars, hchars, List.map_append, List.map_cons, hkept before hbefore,
    hkept after hafter, if_pos rfl]

/-- The wall clock of a proper timestamp shows a proper reading. -/
theorem Proper.wallClock {m : Moment} (h : m.Proper) : m.wallClock.Proper := by
  cases m with
  | naive t => exact h
  | zoned utc offset =>
      obtain ⟨hoffset, wall, hwall, hof⟩ := h
      rw [(wallClock_ofWallClock? hwall.date hwall.clock hoffset.lt hof).1]
      exact hwall

/-- The pattern of date, separator, clock and, if there is one, offset. -/
def pattern (separator : Char) (m : Moment) : String :=
  "%Y-%m-%d" ++ String.singleton separator ++ "%H:%M:%S%.f" ++
    (if m.offset?.isSome then "%:z" else "")

end Moment

namespace Pattern

theorem twoDigits_zeros : ∀ n < 100, twoDigits .zeros n = zeroPadded 2 n := by
  decide +kernel

theorem paddedYear_zeros (year : Int) :
    paddedYear .zeros year = yearText year := by
  unfold paddedYear yearText
  by_cases hplain : 0 ≤ year ∧ year ≤ 9999
  · have habs : year.natAbs = year.toNat := by omega
    have hneg : ¬ year < 0 := by omega
    rw [if_pos hplain, if_pos hplain, signedText, if_neg hneg, habs]
    rfl
  · rw [if_neg hplain, if_neg hplain, signedText]
    by_cases hneg : year < 0
    · rw [if_pos hneg, if_pos hneg]
      rfl
    · rw [if_neg hneg, if_neg hneg]
      rfl

/-- The parts of a pattern of date, separator and clock. -/
def dateTimeParts (sep : Char) : Pattern :=
  [.number .year .zeros, .literal '-', .number .month .zeros, .literal '-',
    .number .day .zeros, .literal sep, .number .hour .zeros, .literal ':',
    .number .minute .zeros, .literal ':', .number .second .zeros,
    .shortestFraction]

theorem ofChars?_pattern {sep : Char} (hsep : sep = ' ' ∨ sep = 'T')
    (m : Moment) :
    ofChars? (m.pattern sep).toList =
      some (dateTimeParts sep ++
        if m.offset?.isSome then [.offset [':']] else []) := by
  unfold Moment.pattern
  rcases hsep with rfl | rfl
  all_goals
    cases m.offset?.isSome with
    | false => decide +kernel
    | true => decide +kernel

theorem chars?_dateTimeParts {m : Moment} (hm : m.wallClock.Proper)
    (sep : Char) :
    chars? (dateTimeParts sep ++
      if m.offset?.isSome then [.offset [':']] else []) m =
      some (m.chars sep) := by
  obtain ⟨-, -, -, hmonth, -, hday⟩ := Date.isValid_iff.1 hm.date
  obtain ⟨hhour, hminute, hsecond, hnanos⟩ := Clock.isValid_iff.1 hm.clock
  have hdayEnd :=
    Date.monthLength_le m.wallClock.date.year m.wallClock.date.month
  have hshown : m.wallClock.clock.shownSecond < 100 := by
    unfold Clock.shownSecond
    unfold secondNanos at hnanos ⊢
    omega
  have hmonthText := twoDigits_zeros m.wallClock.date.month (by omega)
  have hdayText := twoDigits_zeros m.wallClock.date.day (by omega)
  have hhourText := twoDigits_zeros m.wallClock.clock.hour (by omega)
  have hminuteText := twoDigits_zeros m.wallClock.clock.minute (by omega)
  have hsecondText := twoDigits_zeros m.wallClock.clock.shownSecond hshown
  cases hoffset : m.offset? with
  | none =>
      simp [chars?, dateTimeParts, partChars?, numberChars, Moment.chars,
        Date.chars, Clock.chars, Clock.plainChars, paddedYear_zeros, hmonthText,
        hdayText, hhourText, hminuteText, hsecondText, hoffset]
  | some offset =>
      simp [chars?, dateTimeParts, partChars?, numberChars, Moment.chars,
        Date.chars, Clock.chars, Clock.plainChars, paddedYear_zeros, hmonthText,
        hdayText, hhourText, hminuteText, hsecondText, hoffset]

end Pattern

namespace Moment

variable {m : Moment}

/-- The text of a proper timestamp is what its pattern writes. -/
theorem format?_pattern (hm : m.Proper) {sep : Char}
    (hsep : sep = ' ' ∨ sep = 'T') :
    m.format? (m.pattern sep) = some (String.ofList (m.chars sep)) := by
  rw [format?, Pattern.ofChars?_pattern hsep, Option.bind_some,
    Pattern.chars?_dateTimeParts hm.wallClock, Option.map_some]

/-- The timestamps that some text stands for are the proper ones, and each of
them is what its own text stands for. -/
theorem exists_ofText?_iff : (∃ s, ofText? s = some m) ↔ m.Proper := by
  constructor
  · rintro ⟨s, h⟩
    exact proper_of_ofText? h
  · intro h
    refine ⟨m.text, ?_⟩
    rw [ofText?, text, String.toList_ofList, ofChars?, trimBlanks_chars]
    exact ofTrimmed?_of_proper (Or.inl rfl) h

/-- Timestamps survive printing.  Some text stands for a timestamp if and only
if it is proper.  Then it is read again from the text that is shown and from the
ISO text.  The two are what the patterns for date, time, fraction and offset
write; the first has one blank, and the second, which templates get from
`isoformat`, has a `T` in its place. -/
theorem text_reads_back :
    (∀ m : Moment, (∃ s, ofText? s = some m) ↔ m.Proper) ∧
    ∀ s m, ofText? s = some m →
      ofText? m.text = some m ∧ ofText? m.isoText = some m ∧
      m.text.toList.count ' ' = 1 ∧
      m.isoText.toList = m.text.toList.map
        (fun c => if c = ' ' then 'T' else c) ∧
      m.format? (m.pattern ' ') = some m.text ∧
      m.format? (m.pattern 'T') = some m.isoText ∧
      (Template.Value.datetime m).printed = m.text.toList ∧
      Template.Evaluation.datetimeMethod m "isoformat" .none =
        .ok (.ofChars m.isoText.toList) := by
  constructor
  · intro m
    exact exists_ofText?_iff
  · intro s m h
    have hproper := proper_of_ofText? h
    have hback : ∀ sep, sep = ' ' ∨ sep = 'T' →
        ofText? (String.ofList (m.chars sep)) = some m := by
      intro sep hsep
      rw [ofText?, String.toList_ofList]
      exact ofChars?_chars h hsep
    refine ⟨hback ' ' (Or.inl rfl), hback 'T' (Or.inr rfl), ?_, ?_,
      format?_pattern hproper (Or.inl rfl), format?_pattern hproper
        (Or.inr rfl), rfl, rfl⟩
    · rw [text, String.toList_ofList]
      exact m.count_blank_chars
    · rw [text, isoText, String.toList_ofList, String.toList_ofList]
      exact m.map_chars.symm

/-- A leap second on the evening before the date in UTC. -/
def lateMoment : Moment :=
  .zoned ⟨⟨-44, 3, 16⟩, ⟨0, 59, 59, 1500000000⟩⟩ (-5400)

/-- A year with a sign, a leap second with a fraction and an offset that crosses
midnight all come back. -/
theorem text_reads_back_lateMoment :
    ofText? "-44-3-15 23:29:60.5 -01:30" = some lateMoment ∧
      lateMoment.text = "-0044-03-15 23:29:60.500-01:30" ∧
      ofText? lateMoment.text = some lateMoment ∧
      ofText? lateMoment.isoText = some lateMoment := by
  have hread : ofText? "-44-3-15 23:29:60.5 -01:30" = some lateMoment := by
    decide +kernel
  obtain ⟨htext, hiso, -⟩ := text_reads_back.2 _ _ hread
  exact ⟨hread, by decide +kernel, htext, hiso⟩

end Moment

end Stencil

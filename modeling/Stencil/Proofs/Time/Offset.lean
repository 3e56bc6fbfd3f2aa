/-
An offset behind a clock.  A reader stops at the same place when more text
follows that it cannot take, so a date and time with an offset behind it keeps
its wall clock, and the instant moves by the offset.
-/
import Stencil.Proofs.Text.Pieces
import Stencil.Proofs.Time.FormOrder
import Stencil.Proofs.Time.Instant

namespace Stencil

open Text

namespace TimeForm

section Continued

/-! What is read stays the same when a text goes on with something that no
fraction goes on with. -/

variable {item : FormItem} {items : List FormItem} {f g : TimeFields}
  {cs rest more : List Char}

theorem stops_digit (hmore : Stops FormItem.fraction.admits more) :
    Stops Char.isDigit more :=
  fun c hc => (Bool.or_eq_false_iff.1 (hmore c hc)).1

theorem stops_point (hmore : Stops FormItem.fraction.admits more) :
    Stops (· == '.') more :=
  fun c hc => (Bool.or_eq_false_iff.1 (hmore c hc)).2

theorem readField?_append {n : Nat}
    (hmore : Stops FormItem.fraction.admits more)
    (h : readField? cs = some (n, rest)) :
    readField? (cs ++ more) = some (n, rest ++ more) := by
  obtain ⟨blanks, ds, rfl, hblanks, hfield, hstop, hvalue⟩ := readField?_iff.1 h
  have hstop' := hstop.imp_right fun hstops =>
    stops_append hstops (stops_digit hmore)
  exact readField?_iff.2 ⟨blanks, ds, by simp only [List.append_assoc], hblanks,
    hfield, hstop', hvalue⟩

theorem readYear?_append {n : Int} (hmore : Stops FormItem.fraction.admits more)
    (h : readYear? cs = some (n, rest)) :
    readYear? (cs ++ more) = some (n, rest ++ more) := by
  obtain ⟨blanks, text, rfl, hblanks, hyear⟩ := readYear?_iff.1 h
  have hyear' := hyear.imp fun hstops => stops_append hstops (stops_digit hmore)
  exact readYear?_iff.2
    ⟨blanks, text, by simp only [List.append_assoc], hblanks, hyear'⟩

theorem readFraction?_append {n : Nat}
    (hmore : Stops FormItem.fraction.admits more)
    (h : readFraction? cs = some (n, rest)) :
    readFraction? (cs ++ more) = some (n, rest ++ more) := by
  obtain ⟨text, rfl, hfraction⟩ := readFraction?_iff.1 h
  have hfraction' :=
    hfraction.imp (fun hstops => stops_append hstops (stops_digit hmore))
      fun hstops => stops_append hstops (stops_point hmore)
  exact readFraction?_iff.2 ⟨text, List.append_assoc text rest more, hfraction'⟩

theorem ItemReads.append (h : ItemReads item f cs g rest)
    (hblanks : item ≠ .blanks) (hoffset : item ≠ .offset)
    (hmore : Stops FormItem.fraction.admits more) :
    ItemReads item f (cs ++ more) g (rest ++ more) := by
  cases item with
  | blanks | offset => contradiction
  | year =>
      obtain ⟨n, hread, hset⟩ := h
      exact ⟨n, readYear?_append hmore hread, hset⟩
  | month | day | hour | minute | second =>
      obtain ⟨n, hread, hset⟩ := h
      exact ⟨n, readField?_append hmore hread, hset⟩
  | fraction =>
      obtain ⟨n, hread, hset⟩ := h
      exact ⟨n, readFraction?_append hmore hread, hset⟩
  | literal c =>
      obtain ⟨rfl, hset⟩ := h
      exact ⟨rfl, hset⟩

theorem readItems?_append_text (hblanks : .blanks ∉ items)
    (hoffset : .offset ∉ items) (hmore : Stops FormItem.fraction.admits more)
    (h : readItems? items f cs = some (g, rest)) :
    readItems? items f (cs ++ more) = some (g, rest ++ more) := by
  induction items generalizing f cs with
  | nil =>
      obtain ⟨rfl, rfl⟩ := Prod.mk.inj (Option.some.inj h)
      rfl
  | cons item items ih =>
      rw [List.mem_cons, not_or] at hblanks hoffset
      obtain ⟨next, after, hitem, hitems⟩ := readItems?_cons_eq_some_iff.1 h
      have hread := hitem.append (Ne.symm hblanks.1) (Ne.symm hoffset.1) hmore
      exact readItems?_cons_eq_some_iff.2
        ⟨next, after ++ more, hread, ih hblanks.2 hoffset.2 hitems⟩

/-- White space between date and clock is the hour's own, so a form with a clock
reads on in the same way. -/
theorem readItems?_naive_append {form : TimeForm} (hform : form ∈ naiveForms)
    (hmore : Stops FormItem.fraction.admits more)
    (h : readItems? form f cs = some (g, rest)) :
    readItems? form f (cs ++ more) = some (g, rest ++ more) := by
  have hplain : ∀ tail ∈ clockTails,
      .blanks ∉ FormItem.hour :: .literal ':' :: .minute :: tail ∧
        .offset ∉ FormItem.hour :: .literal ':' :: .minute :: tail := by decide
  obtain ⟨separator, hseparator, tail, htail, rfl⟩ :=
    exists_of_mem_naiveForms hform
  obtain ⟨hblanks, hoffset⟩ := hplain tail htail
  obtain ⟨dated, afterDate, hdate, hclock⟩ := readItems?_append_eq_some h
  rw [readItems?_append,
    readItems?_append_text (by decide) (by decide) hmore hdate]
  simp only [separators, List.mem_cons, List.not_mem_nil,
    or_false] at hseparator
  rcases hseparator with rfl | rfl
  · exact readItems?_append_text (by simpa using hblanks)
      (by simpa using hoffset) hmore hclock
  · rw [List.cons_append, List.singleton_append,
      readItems?_blanks_hour] at hclock
    simp only [Option.bind_some, List.cons_append, List.nil_append,
      readItems?_blanks_hour]
    exact readItems?_append_text hblanks hoffset hmore hclock

end Continued

section Offset

variable {form : TimeForm} {f : TimeFields} {cs after : List Char} {sign : Char}
  {hours minutes : Nat}

theorem stops_offsetText (hafter : ∀ c ∈ after, isBlank c = true)
    (hsign : isOffsetSign sign = true) (hours minutes : Nat) :
    Stops FormItem.fraction.admits
      (after ++ offsetText sign hours minutes) := by
  apply stops_append
  · intro c hc
    have hblank := hafter c (List.mem_of_mem_head? hc)
    have hpoint : c ≠ '.' := ne_of_class hblank (by decide)
    have hdigit : c.isDigit = false := Bool.eq_false_iff.2 fun hdigit => by
      rw [isBlank_eq_false_of_isDigit hdigit] at hblank
      contradiction
    simp [FormItem.admits, hpoint, hdigit]
  · rw [offsetText, stops_cons]
    rcases eq_of_isOffsetSign hsign with rfl | rfl | rfl <;> decide

theorem readOffset?_blanks_append (hafter : ∀ c ∈ after, isBlank c = true)
    (cs : List Char) :
    readOffset? (after ++ cs) = readOffset? cs := by
  rw [readOffset?, List.dropWhile_append_of_pos hafter, ← readOffset?]

/-- The form with an offset reads what the form without it does, and the
offset. -/
theorem read?_offset (hform : form ∈ naiveForms) (h : read? form cs = some f)
    (hafter : ∀ c ∈ after, isBlank c = true) (hsign : isOffsetSign sign = true)
    (hhours : hours ≤ 23) (hminutes : minutes ≤ 59) :
    read? (form ++ [.offset]) (cs ++ (after ++ offsetText sign hours minutes)) =
      some { f with offset := offsetSeconds sign hours minutes } := by
  have hread :=
    readItems?_naive_append hform (stops_offsetText hafter hsign hours minutes)
      (readItems?_of_read? h)
  have hskip : readOffset? (after ++ offsetText sign hours minutes) =
      some (offsetSeconds sign hours minutes, []) := by
    have hoffset := readOffset?_offsetText hsign hhours hminutes []
    rw [List.append_nil] at hoffset
    rw [readOffset?_blanks_append hafter, hoffset]
  rw [read?, readItems?_append, hread]
  simp only [List.nil_append, Option.bind_some, readItems?, readItem?, hskip,
    Option.map_some, Option.bind_eq_bind]

theorem natAbs_offsetSeconds_lt (sign : Char) (hhours : hours ≤ 23)
    (hminutes : minutes ≤ 59) :
    (offsetSeconds sign hours minutes).natAbs < DateTime.daySeconds := by
  unfold offsetSeconds DateTime.daySeconds
  split <;> omega

end Offset

end TimeForm

namespace Moment

open TimeForm

variable {cs : List Char} {wall : DateTime}

theorem zoned?_ne_naive (cs : List Char) (form : TimeForm) (wall : DateTime) :
    zoned? cs form ≠ some (.naive wall) := by
  intro h
  obtain ⟨f, -, h⟩ := Option.bind_eq_some_iff.1 h
  obtain ⟨t, -, h⟩ := Option.bind_eq_some_iff.1 h
  obtain ⟨-, heq⟩ := ofWallClock?_eq_some_iff.1 h
  contradiction

theorem beforeZulu?_of_naive (h : ofTrimmed? cs = some (.naive wall)) :
    beforeZulu? cs = none := by
  cases hzulu : beforeZulu? cs with
  | none => rfl
  | some before =>
      rw [ofTrimmed?, hzulu] at h
      obtain ⟨form, -, hform⟩ := List.exists_of_findSome?_eq_some h
      exact absurd hform (zoned?_ne_naive _ form wall)

/-- A date and time without an offset was read by a form with a clock. -/
theorem exists_of_naive (h : ofTrimmed? cs = some (.naive wall))
    (hcolon : ':' ∈ cs) :
    ∃ form ∈ naiveForms, ∃ f, read? form cs = some f ∧
      f.dateTime? = some wall := by
  obtain ⟨group, form, hform, haccept⟩ :=
    (ofTrimmed?_eq_some_iff (beforeZulu?_of_naive h)).1 h
  cases group with
  | zoned => exact absurd haccept (zoned?_ne_naive cs form wall)
  | date =>
      obtain rfl := List.mem_singleton.1 hform
      obtain ⟨f, hread, -⟩ := Option.bind_eq_some_iff.1 haccept
      exact absurd hcolon (colon_not_mem_of_date hread)
  | naive =>
      obtain ⟨f, hread, hmoment⟩ := Option.bind_eq_some_iff.1 haccept
      obtain ⟨t, htime, heq⟩ := Option.map_eq_some_iff.1 hmoment
      rw [Moment.naive.inj heq] at htime
      exact ⟨form, hform, f, hread, htime⟩

/-- The last character is a digit. -/
def EndsInDigit (cs : List Char) : Prop :=
  ∃ before c, cs = before ++ [c] ∧ c.isDigit = true

theorem EndsInDigit.append {cs : List Char} (h : EndsInDigit cs)
    (before : List Char) :
    EndsInDigit (before ++ cs) := by
  obtain ⟨front, c, rfl, hc⟩ := h
  exact ⟨before ++ front, c, by rw [List.append_assoc], hc⟩

theorem EndsInDigit.cons {cs : List Char} (h : EndsInDigit cs) (c : Char) :
    EndsInDigit (c :: cs) :=
  h.append [c]

theorem endsInDigit_of_digits {ds : List Char} (hne : ds ≠ [])
    (hdigits : ∀ c ∈ ds, c.isDigit = true) : EndsInDigit ds := by
  have hsplit := List.dropLast_concat_getLast hne
  exact ⟨_, _, hsplit.symm, hdigits _ (List.getLast_mem _)⟩

theorem endsInDigit_zeroPadded (width n : Nat) :
    EndsInDigit (zeroPadded width n) :=
  endsInDigit_of_digits zeroPadded_ne_nil isDigit_of_mem_zeroPadded

theorem beforeZulu?_of_endsInDigit {cs : List Char} (h : EndsInDigit cs) :
    beforeZulu? cs = none := by
  obtain ⟨before, c, rfl, hc⟩ := h
  have hupper : c ≠ 'Z' := ne_of_class hc (by decide)
  have hlower : c ≠ 'z' := ne_of_class hc (by decide)
  simp [beforeZulu?, hupper, hlower]

section Offset

variable {s : String} {sign : Char} {hours minutes : Nat}

/-- Trimming leaves the offset in place, and the white space in front of it. -/
theorem trimBlanks_offset {before core after : List Char}
    (hbefore : ∀ c ∈ before, isBlank c = true) (hcore : core ≠ [])
    (hhead : Stops isBlank core) (sign : Char) (hours minutes : Nat) :
    trimBlanks (before ++ (core ++ after) ++ offsetText sign hours minutes) =
      core ++ (after ++ offsetText sign hours minutes) := by
  obtain ⟨c, tail, rfl⟩ := List.exists_cons_of_ne_nil hcore
  obtain ⟨front, last, hlast, hdigit⟩ :=
    ((((endsInDigit_zeroPadded 2 minutes).cons ':').append
      (zeroPadded 2 hours)).cons sign).append
      (c :: tail ++ after)
  have htext : before ++ (c :: tail ++ after) ++ offsetText sign hours minutes =
      before ++ ((c :: tail ++ (after ++ offsetText sign hours minutes)) ++
        []) := by
    simp only [List.append_assoc, List.append_nil]
  rw [trimBlanks, htext]
  apply trimWhere_pad hbefore (by simp)
  · exact stops_cons.2 (stops_cons.1 hhead)
  · rw [← List.append_assoc, offsetText, hlast, List.reverse_append]
    exact stops_cons.2 (isBlank_eq_false_of_isDigit hdigit)

/-- A date and time followed by an offset is the moment at which a clock with
that offset shows them. -/
theorem ofText?_offset_eq (h : ofText? s = some (.naive wall))
    (hcolon : ':' ∈ s.toList) (hsign : isOffsetSign sign = true)
    (hhours : hours ≤ 23) (hminutes : minutes ≤ 59) :
    ofText? (s ++ String.ofList (offsetText sign hours minutes)) =
      ofWallClock? wall (offsetSeconds sign hours minutes) := by
  obtain ⟨before, after, hs, hbefore, hafter, hhead⟩ :=
    exists_trimWhere isBlank s.toList
  have hcore : ':' ∈ trimBlanks s.toList := mem_trimWhere hcolon (by decide)
  obtain ⟨form, hform, f, hread, htime⟩ := exists_of_naive h hcore
  have htrim :
      trimBlanks (s ++ String.ofList (offsetText sign hours minutes)).toList =
      trimBlanks s.toList ++ (after ++ offsetText sign hours minutes) := by
    rw [String.toList_append, String.toList_ofList, ← trimBlanks_offset hbefore
      (List.ne_nil_of_mem hcore) hhead]
    exact congrArg (fun cs =>
      trimBlanks (cs ++ offsetText sign hours minutes)) hs
  have hzulu :
      beforeZulu?
        (trimBlanks s.toList ++ (after ++ offsetText sign hours minutes)) =
        none :=
    beforeZulu?_of_endsInDigit
      ((((((endsInDigit_zeroPadded 2 minutes).cons ':').append _).cons
        sign).append after).append _)
  have hzoned : form ++ [.offset] ∈ FormGroup.zoned.forms :=
    List.mem_map_of_mem hform
  rw [ofText?, ofChars?, htrim, ofTrimmed?_of_read? hzulu hzoned
    (read?_offset hform hread hafter hsign hhours hminutes)]
  have hsame :
      ({ f with offset := offsetSeconds sign hours minutes } :
        TimeFields).dateTime? =
      some wall := htime
  rw [FormGroup.moment?, hsame, Option.bind_some]

/-- An offset never moves the wall clock.  A date and time with an offset behind
it is read as a timestamp with that wall clock, fraction and leap second
included, and that offset, unless its instant, which is the wall clock less the
offset, lies in no year of the calendar. -/
theorem ofText?_offset (h : ofText? s = some (.naive wall))
    (hcolon : ':' ∈ s.toList) (hsign : isOffsetSign sign = true)
    (hhours : hours ≤ 23) (hminutes : minutes ≤ 59) :
    (ofText? (s ++ String.ofList (offsetText sign hours minutes)) = none ↔
      ¬ (DateTime.yearStart Date.minYear ≤
        wall.epochSeconds - offsetSeconds sign hours minutes ∧
        wall.epochSeconds - offsetSeconds sign hours minutes <
          DateTime.yearStart (Date.maxYear + 1))) ∧
    ∀ m, ofText? (s ++ String.ofList (offsetText sign hours minutes)) = some m →
      m.wallClock = wall ∧ m.offset? = some (offsetSeconds sign hours minutes) ∧
        m.epochSeconds =
          wall.epochSeconds - offsetSeconds sign hours minutes := by
  have hproper : wall.Proper := proper_of_ofText? h
  have hdate := Date.isDay_of_isValid hproper.date
  have hoffset := natAbs_offsetSeconds_lt sign hhours hminutes
  rw [ofText?_offset_eq h hcolon hsign hhours hminutes]
  refine ⟨ofWallClock?_eq_none_iff hdate hproper.clock hoffset, fun m hm => ?_⟩
  obtain ⟨hwall, hkept⟩ :=
    wallClock_ofWallClock? hproper.date hproper.clock hoffset hm
  exact ⟨hwall, hkept, epochSeconds_ofWallClock? hdate hproper.clock hoffset hm⟩

/-- A leap second at the end of a year stays one, though the instant lies in the
next year.  West of Greenwich the last minute of the calendar has no instant. -/
theorem ofText?_offset_yearEnd :
    (ofText? ("2016-12-31 23:59:60.5 " ++ String.ofList (offsetText '-' 0 30)) ≠
      none ∧
      ∀ m, ofText?
        ("2016-12-31 23:59:60.5 " ++ String.ofList (offsetText '-' 0 30)) =
        some m →
        m.wallClock = ⟨⟨2016, 12, 31⟩, ⟨23, 59, 59, 1500000000⟩⟩ ∧
          m.offset? = some (-1800) ∧
          m.epochSeconds = 1483230599) ∧
    ofText? ("+262142-12-31T23:59" ++ String.ofList (offsetText '-' 0 1)) =
      none := by
  have hleap : ofText? "2016-12-31 23:59:60.5 " =
      some (.naive ⟨⟨2016, 12, 31⟩, ⟨23, 59, 59, 1500000000⟩⟩) := by
        decide +kernel
  have hlast : ofText? "+262142-12-31T23:59" =
      some (.naive ⟨⟨262142, 12, 31⟩, ⟨23, 59, 0, 0⟩⟩) := by
    decide +kernel
  have hminus : isOffsetSign '-' = true := by decide
  have hhours : 0 ≤ 23 := by decide
  have hhalf : 30 ≤ 59 := by decide
  have hminute : 1 ≤ 59 := by decide
  obtain ⟨hnone, hsome⟩ := ofText?_offset hleap (by decide) hminus hhours hhalf
  refine ⟨⟨fun h => absurd (hnone.1 h) (by decide), hsome⟩, ?_⟩
  exact (ofText?_offset hlast (by decide) hminus hhours hminute).1.2 (by decide)

end Offset

end Moment

end Stencil

/-
Day numbers and seconds.  Neighbouring days have neighbouring numbers, so a
reading that is moved by some seconds is that many seconds later, and the number
of a day tells on which side of the start of a year it lies.
-/
import Stencil.Proofs.Time.Calendar

namespace Stencil

namespace Date

variable {d : Date}

/-- The days of a year before a month. -/
def daysBefore (year : Int) (month : Nat) : Nat :=
  (List.range' 1 (month - 1)).foldl
    (fun days month => days + monthLength year month) 0

def yearLength (year : Int) : Nat :=
  if isLeapYear year then 366 else 365

theorem ordinal_eq (d : Date) :
    d.ordinal = d.day + daysBefore d.year d.month := by
  have hfold : ∀ (months : List Nat) (days : Nat),
      months.foldl (fun days month => days + monthLength d.year month) days =
        days + months.foldl (fun days month =>
          days + monthLength d.year month) 0 := by
    intro months
    induction months with
    | nil => exact fun days => rfl
    | cons month months ih =>
        intro days
        rw [List.foldl_cons, List.foldl_cons, ih,
          ih (0 + monthLength d.year month), Nat.zero_add, Nat.add_assoc]
  exact hfold _ _

theorem daysBefore_succ (year : Int) {month : Nat} (h : 1 ≤ month) :
    daysBefore year (month + 1) =
      daysBefore year month + monthLength year month := by
  obtain ⟨month, rfl⟩ := Nat.exists_eq_add_of_le' h
  simp only [daysBefore, Nat.add_sub_cancel, List.range'_1_concat,
    List.foldl_append, List.foldl_cons, List.foldl_nil, Nat.add_comm 1]

theorem daysBefore_mono (year : Int) {first last : Nat} (hfirst : 1 ≤ first)
    (h : first ≤ last) :
    daysBefore year first ≤ daysBefore year last := by
  induction h with
  | refl => exact Nat.le_refl _
  | step h ih =>
      rw [daysBefore_succ year (Nat.le_trans hfirst h)]
      exact Nat.le_add_right_of_le ih

theorem daysBefore_thirteen (year : Int) :
    daysBefore year 13 = yearLength year := by
  simp only [daysBefore, yearLength, monthLength, List.range', List.foldl_cons,
    List.foldl_nil]
  split <;> rfl

theorem one_le_ordinal (h : d.IsDay) : 1 ≤ d.ordinal := by
  rw [ordinal_eq]
  exact Nat.le_add_right_of_le h.day

theorem ordinal_le (h : d.IsDay) : d.ordinal ≤ yearLength d.year :=
  calc d.ordinal = d.day + daysBefore d.year d.month := ordinal_eq d
    _ ≤ monthLength d.year d.month + daysBefore d.year d.month :=
        Nat.add_le_add_right h.dayEnd _
    _ = daysBefore d.year (d.month + 1) := by
        rw [daysBefore_succ d.year h.month, Nat.add_comm]
    _ ≤ daysBefore d.year 13 :=
        daysBefore_mono d.year (by omega) (Nat.succ_le_succ h.monthEnd)
    _ = yearLength d.year := daysBefore_thirteen d.year

/-- The number of the first day of a year. -/
def yearStart (year : Int) : Int :=
  (Date.mk year 1 1).dayNumber

theorem dayNumber_eq (d : Date) :
    d.dayNumber = yearStart d.year + d.ordinal - 1 := by
  have hfirst : (Date.mk d.year 1 1).ordinal = 1 := rfl
  simp only [yearStart, dayNumber, hfirst]
  omega

theorem yearStart_succ (year : Int) :
    yearStart (year + 1) = yearStart year + yearLength year := by
  have hfirst : ∀ y, (Date.mk y 1 1).ordinal = 1 := fun y => rfl
  simp only [yearStart, dayNumber, hfirst, yearLength, isLeapYear,
    Bool.and_eq_true, Bool.or_eq_true, beq_iff_eq, bne_iff_ne]
  split <;> omega

theorem yearStart_mono {first last : Int} (h : first ≤ last) :
    yearStart first ≤ yearStart last := by
  have hfirst : ∀ y, (Date.mk y 1 1).ordinal = 1 := fun y => rfl
  simp only [yearStart, dayNumber, hfirst]
  omega

/-- A day is not before a year if and only if its number is not. -/
theorem yearStart_le_dayNumber_iff (h : d.IsDay) {year : Int} :
    yearStart year ≤ d.dayNumber ↔ year ≤ d.year := by
  have hordinal := one_le_ordinal h
  have hlength := ordinal_le h
  rw [dayNumber_eq]
  constructor
  · intro hle
    refine Int.not_lt.1 fun hlt => ?_
    have hstart := yearStart_mono (Int.add_one_le_of_lt hlt)
    rw [yearStart_succ] at hstart
    omega
  · intro hle
    have hstart := yearStart_mono hle
    omega

theorem dayNumber_next (h : d.IsDay) : d.next.dayNumber = d.dayNumber + 1 := by
  have hday := h.day
  have hdayEnd := h.dayEnd
  have hmonth := h.month
  have hmonthEnd := h.monthEnd
  rw [dayNumber_eq, dayNumber_eq d, ordinal_eq, ordinal_eq d]
  unfold next
  split
  next =>
      simp only
      omega
  split
  next =>
      simp only [daysBefore_succ d.year hmonth]
      omega
  next =>
      have hlast : d.month = 12 := by omega
      have hyear : daysBefore d.year (d.month + 1) = yearLength d.year := by
        rw [hlast, daysBefore_thirteen]
      have hempty : daysBefore (d.year + 1) 1 = 0 := rfl
      rw [daysBefore_succ d.year hmonth] at hyear
      simp only [yearStart_succ, hempty]
      omega

theorem dayNumber_previous (h : d.IsDay) :
    d.previous.dayNumber = d.dayNumber - 1 := by
  have hnext := dayNumber_next h.previous
  rw [next_previous h] at hnext
  omega

end Date

namespace DateTime

variable {t : DateTime} {s : Int}

theorem isDay_shift (h : t.date.IsDay) (s : Int) : (t.shift s).date.IsDay := by
  unfold shift
  simp only
  split
  next => exact h.previous
  split
  next => exact h.next
  next => exact h

theorem clock_shift_lt (hclock : t.clock.isValid = true)
    (hs : s.natAbs < daySeconds) :
    (t.shift s).clock.seconds < daySeconds := by
  have hseconds := Clock.seconds_lt hclock
  unfold shift
  simp only
  split
  next =>
      rw [Clock.seconds_ofSeconds]
      omega
  split
  · rw [Clock.seconds_ofSeconds]
    omega
  · rw [Clock.seconds_ofSeconds]
    omega

/-- A reading moved by some seconds is that many seconds later. -/
theorem epochSeconds_shift (hdate : t.date.IsDay)
    (hclock : t.clock.isValid = true) (hs : s.natAbs < daySeconds) :
    (t.shift s).epochSeconds = t.epochSeconds + s := by
  have hseconds := Clock.seconds_lt hclock
  have hday : (daySeconds : Int) = 86400 := rfl
  unfold shift epochSeconds
  simp only
  split
  next =>
      simp only [Clock.seconds_ofSeconds, Date.dayNumber_previous hdate, hday]
      omega
  split
  next =>
      simp only [Clock.seconds_ofSeconds, Date.dayNumber_next hdate, hday]
      omega
  next =>
      simp only [Clock.seconds_ofSeconds, hday]
      omega

/-- The second at which a year begins. -/
def yearStart (year : Int) : Int :=
  (DateTime.mk ⟨year, 1, 1⟩ Clock.midnight).epochSeconds

theorem yearStart_le_epochSeconds_iff (hdate : t.date.IsDay)
    (hclock : t.clock.seconds < daySeconds) {year : Int} :
    yearStart year ≤ t.epochSeconds ↔ year ≤ t.date.year := by
  have hmidnight : (Clock.midnight.seconds : Int) = 0 := rfl
  have hday : (daySeconds : Int) = 86400 := rfl
  have hstart : (Date.mk year 1 1).dayNumber = Date.yearStart year := rfl
  rw [← Date.yearStart_le_dayNumber_iff hdate]
  unfold yearStart epochSeconds
  simp only [hmidnight, hday, hstart]
  omega

/-- A reading has a date of the calendar if and only if it lies between the
start of the first year and the end of the last one. -/
theorem isValid_iff_epochSeconds (hdate : t.date.IsDay)
    (hclock : t.clock.seconds < daySeconds) :
    t.date.isValid = true ↔
      yearStart Date.minYear ≤ t.epochSeconds ∧
        t.epochSeconds < yearStart (Date.maxYear + 1) := by
  rw [hdate.isValid_iff, yearStart_le_epochSeconds_iff hdate hclock,
    ← Int.not_le, yearStart_le_epochSeconds_iff hdate hclock]
  omega

end DateTime

namespace Moment

variable {wall : DateTime} {offset : Int}

/-- There is no moment if and only if the instant lies outside the calendar. -/
theorem ofWallClock?_eq_none_iff (hdate : wall.date.IsDay)
    (hclock : wall.clock.isValid = true)
    (hoffset : offset.natAbs < DateTime.daySeconds) :
    ofWallClock? wall offset = none ↔
      ¬ (DateTime.yearStart Date.minYear ≤ wall.epochSeconds - offset ∧
        wall.epochSeconds - offset < DateTime.yearStart
          (Date.maxYear + 1)) := by
  have hneg : (-offset).natAbs < DateTime.daySeconds := by rwa [Int.natAbs_neg]
  have hvalid :=
    DateTime.isValid_iff_epochSeconds (DateTime.isDay_shift hdate (-offset))
      (DateTime.clock_shift_lt hclock hneg)
  rw [DateTime.epochSeconds_shift hdate hclock hneg,
    ← Int.sub_eq_add_neg] at hvalid
  rw [← hvalid]
  unfold ofWallClock?
  simp only
  split
  next h => simp [h]
  next h => simp [h]

/-- The instant is kept in UTC, so the offset is taken off. -/
theorem epochSeconds_ofWallClock? {m : Moment} (hdate : wall.date.IsDay)
    (hclock : wall.clock.isValid = true)
    (hoffset : offset.natAbs < DateTime.daySeconds)
    (h : ofWallClock? wall offset = some m) :
    m.epochSeconds = wall.epochSeconds - offset := by
  have hneg : (-offset).natAbs < DateTime.daySeconds := by rwa [Int.natAbs_neg]
  obtain ⟨-, rfl⟩ := ofWallClock?_eq_some_iff.1 h
  exact DateTime.epochSeconds_shift hdate hclock hneg

end Moment

end Stencil

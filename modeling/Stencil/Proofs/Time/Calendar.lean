/-
Moving a clock reading back and forth.  The days before and after a date of the
calendar are inverse to each other, so a wall clock is found again from the
reading in UTC and the offset.
-/
import Stencil.Time.Moment

namespace Stencil

namespace Date

theorem isValid_iff {d : Date} :
    d.isValid = true ↔ minYear ≤ d.year ∧ d.year ≤ maxYear ∧ 1 ≤ d.month ∧
      d.month ≤ 12 ∧ 1 ≤ d.day ∧ d.day ≤ monthLength d.year d.month := by
  simp only [isValid, Bool.and_eq_true, decide_eq_true_eq, and_assoc]

/-- A day of some year, of the calendar or beyond it. -/
structure IsDay (d : Date) : Prop where
  month : 1 ≤ d.month
  monthEnd : d.month ≤ 12
  day : 1 ≤ d.day
  dayEnd : d.day ≤ monthLength d.year d.month

theorem isDay_of_isValid {d : Date} (h : d.isValid = true) : d.IsDay := by
  obtain ⟨-, -, hmonth, hmonthEnd, hday, hdayEnd⟩ := isValid_iff.1 h
  exact ⟨hmonth, hmonthEnd, hday, hdayEnd⟩

theorem IsDay.isValid_iff {d : Date} (h : d.IsDay) :
    d.isValid = true ↔ minYear ≤ d.year ∧ d.year ≤ maxYear := by
  rw [Date.isValid_iff]
  constructor
  · rintro ⟨hfirst, hlast, -⟩
    exact ⟨hfirst, hlast⟩
  · rintro ⟨hfirst, hlast⟩
    exact ⟨hfirst, hlast, h.month, h.monthEnd, h.day, h.dayEnd⟩

theorem IsDay.next {d : Date} (h : d.IsDay) : d.next.IsDay := by
  have hlength := one_le_monthLength
  unfold Date.next
  split
  next hinside => exact ⟨h.month, h.monthEnd, Nat.le_add_left 1 _, hinside⟩
  split
  next hlast => exact ⟨Nat.le_add_left 1 _, hlast, Nat.le_refl 1, hlength _ _⟩
  next => exact ⟨Nat.le_refl 1, by simp, Nat.le_refl 1, hlength _ _⟩

theorem IsDay.previous {d : Date} (h : d.IsDay) : d.previous.IsDay := by
  have hmonthEnd := h.monthEnd
  unfold Date.previous
  split
  next hinside =>
      exact ⟨h.month, hmonthEnd, Nat.le_sub_one_of_lt hinside,
        Nat.le_trans (Nat.sub_le _ _) h.dayEnd⟩
  split
  next hfirst =>
      exact ⟨Nat.le_sub_one_of_lt hfirst,
        Nat.le_trans (Nat.sub_le _ _) hmonthEnd,
        one_le_monthLength _ _, Nat.le_refl _⟩
  next => exact ⟨by simp, Nat.le_refl 12, by simp, Nat.le_refl 31⟩

theorem previous_next {d : Date} (h : d.IsDay) : d.next.previous = d := by
  obtain ⟨hmonth, hmonthEnd, hday, hdayEnd⟩ := h
  obtain ⟨year, month, day⟩ := d
  simp only at hmonth hmonthEnd hday hdayEnd
  by_cases hinside : day < monthLength year month
  · have hpositive : day ≠ 0 := by omega
    simp [Date.next, Date.previous, hinside, hpositive]
  · obtain rfl : day = monthLength year month := by omega
    by_cases hlast : month < 12
    · have hpositive : month ≠ 0 := by omega
      simp [Date.next, Date.previous, hlast, hpositive]
    · obtain rfl : month = 12 := by omega
      simp [Date.next, Date.previous, monthLength]

theorem next_previous {d : Date} (h : d.IsDay) : d.previous.next = d := by
  obtain ⟨hmonth, hmonthEnd, hday, hdayEnd⟩ := h
  obtain ⟨year, month, day⟩ := d
  simp only at hmonth hmonthEnd hday hdayEnd
  by_cases hinside : 1 < day
  · have hlt : day - 1 < monthLength year month := by omega
    have hback : day - 1 + 1 = day := by omega
    simp [Date.next, Date.previous, hinside, hlt, hback]
  · obtain rfl : day = 1 := by omega
    by_cases hfirst : 1 < month
    · have hlt : month - 1 < 12 := by omega
      have hback : month - 1 + 1 = month := by omega
      simp [Date.next, Date.previous, hfirst, hlt, hback]
    · obtain rfl : month = 1 := by omega
      simp [Date.next, Date.previous, monthLength]

end Date

namespace Clock

theorem isValid_iff {c : Clock} :
    c.isValid = true ↔ c.hour < 24 ∧ c.minute < 60 ∧ c.second < 60 ∧
      c.nanos < 2 * secondNanos := by
  simp only [isValid, Bool.and_eq_true, decide_eq_true_eq, and_assoc]

theorem seconds_lt {c : Clock} (h : c.isValid = true) :
    c.seconds < DateTime.daySeconds := by
  obtain ⟨hhour, hminute, hsecond, -⟩ := isValid_iff.1 h
  unfold seconds DateTime.daySeconds
  omega

end Clock

namespace DateTime

/-- A reading moved by less than a day is found again by moving it back. -/
theorem shift_shift_neg {t : DateTime} {s : Int} (hdate : t.date.isValid = true)
    (hclock : t.clock.isValid = true) (hs : s.natAbs < daySeconds) :
    (t.shift (-s)).shift s = t := by
  obtain ⟨date, clock⟩ := t
  have hseconds := Clock.seconds_lt hclock
  have hback := Clock.ofSeconds_seconds hclock
  simp only at hdate hclock hseconds
  have hnanos : ∀ n, (Clock.ofSeconds n clock.nanos).nanos = clock.nanos :=
    fun n => rfl
  unfold shift
  by_cases hbefore : (clock.seconds : Int) + -s < 0
  · have hnext : ¬ ((clock.seconds : Int) + -s + daySeconds).toNat + s <
        0 := by omega
    have hday : (daySeconds : Int) ≤
        ((clock.seconds : Int) + -s + daySeconds).toNat + s := by omega
    have htotal :
        ((((clock.seconds : Int) + -s + daySeconds).toNat : Int) + s -
          daySeconds).toNat =
        clock.seconds := by omega
    simp only [if_pos hbefore, Clock.seconds_ofSeconds, if_neg hnext,
      if_pos hday, htotal, hnanos, hback,
      Date.next_previous (Date.isDay_of_isValid hdate)]
  · by_cases hafter : (daySeconds : Int) ≤ (clock.seconds : Int) + -s
    · have hprevious : ((clock.seconds : Int) + -s - daySeconds).toNat + s <
          0 := by omega
      have htotal :
          ((((clock.seconds : Int) + -s - daySeconds).toNat : Int) + s +
            daySeconds).toNat =
          clock.seconds := by omega
      simp only [if_neg hbefore, if_pos hafter, Clock.seconds_ofSeconds,
        if_pos hprevious, htotal, hnanos, hback,
        Date.previous_next (Date.isDay_of_isValid hdate)]
    · have hsame : ¬ (((clock.seconds : Int) + -s).toNat : Int) + s <
          0 := by omega
      have hinside : ¬ (daySeconds : Int) ≤
          (((clock.seconds : Int) + -s).toNat : Int) + s := by omega
      have htotal : ((((clock.seconds : Int) + -s).toNat : Int) + s).toNat =
          clock.seconds := by omega
      simp only [if_neg hbefore, if_neg hafter, Clock.seconds_ofSeconds,
        if_neg hsame, if_neg hinside, htotal, hnanos, hback]

end DateTime

namespace Moment

theorem ofWallClock?_eq_some_iff {wall : DateTime} {offset : Int} {m : Moment} :
    ofWallClock? wall offset = some m ↔
      (wall.shift (-offset)).date.isValid = true ∧
        m = zoned (wall.shift (-offset)) offset := by
  unfold ofWallClock?
  simp only
  split
  next hvalid => simp [hvalid, eq_comm]
  next hvalid => simp [hvalid]

/-- The wall clock is kept together with the offset. -/
theorem wallClock_ofWallClock? {wall : DateTime} {offset : Int} {m : Moment}
    (hdate : wall.date.isValid = true) (hclock : wall.clock.isValid = true)
    (hoffset : offset.natAbs < DateTime.daySeconds)
    (h : ofWallClock? wall offset = some m) :
    m.wallClock = wall ∧ m.offset? = some offset := by
  obtain ⟨-, rfl⟩ := ofWallClock?_eq_some_iff.1 h
  exact ⟨DateTime.shift_shift_neg hdate hclock hoffset, rfl⟩

end Moment

end Stencil

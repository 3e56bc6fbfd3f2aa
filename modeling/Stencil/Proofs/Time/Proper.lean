/-
What the forms read.  The fields that the calendar does not check have bounds
that every item keeps, so every timestamp that is read is proper: its fraction
is less than a second and its offset is one of whole minutes.
-/
import Stencil.Proofs.Time.Calendar
import Stencil.Proofs.Time.FieldText

namespace Stencil

/-- A reading of calendar and clock with leap seconds at the end of a minute
only. -/
structure DateTime.Proper (t : DateTime) : Prop where
  date : t.date.isValid = true
  clock : t.clock.isValid = true
  leap : secondNanos ≤ t.clock.nanos → t.clock.second = 59

/-- A proper reading, with an offset of whole minutes if there is one. -/
def Moment.Proper : Moment → Prop
  | .naive t => t.Proper
  | .zoned utc offset => TimeForm.IsOffset offset ∧
      ∃ wall : DateTime, wall.Proper ∧
        ofWallClock? wall offset = some (.zoned utc offset)

namespace TimeForm

open Text

/-- What an item reads from a text, and the field that it sets. -/
def ItemReads (item : FormItem) (f : TimeFields) (cs : List Char)
    (g : TimeFields) (rest : List Char) : Prop :=
  match item with
  | .year => ∃ n, readYear? cs = some (n, rest) ∧ g = { f with year := n }
  | .month => ∃ n, readField? cs = some (n, rest) ∧ g = { f with month := n }
  | .day => ∃ n, readField? cs = some (n, rest) ∧ g = { f with day := n }
  | .hour => ∃ n, readField? cs = some (n, rest) ∧ g = { f with hour := n }
  | .minute => ∃ n, readField? cs = some (n, rest) ∧ g = { f with minute := n }
  | .second => ∃ n, readField? cs = some (n, rest) ∧ g = { f with second := n }
  | .fraction =>
      ∃ n, readFraction? cs = some (n, rest) ∧ g = { f with fraction := n }
  | .offset => ∃ n, readOffset? cs = some (n, rest) ∧ g = { f with offset := n }
  | .blanks => cs.dropWhile isBlank = rest ∧ g = f
  | .literal c => cs = c :: rest ∧ g = f

theorem readItem?_eq_some_iff {item : FormItem} {f g : TimeFields}
    {cs rest : List Char} :
    readItem? item f cs = some (g, rest) ↔ ItemReads item f cs g rest := by
  cases item with
  | year | month | day | hour | minute | second | fraction | offset =>
      simp only [readItem?, ItemReads, Option.map_eq_some_iff, Prod.mk.injEq,
        Prod.exists]
      constructor
      · rintro ⟨n, more, hread, rfl, rfl⟩
        exact ⟨n, hread, rfl⟩
      · rintro ⟨n, hread, rfl⟩
        exact ⟨n, rest, hread, rfl, rfl⟩
  | blanks =>
      simp only [readItem?, ItemReads, Option.some.injEq, Prod.mk.injEq]
      constructor
      · rintro ⟨rfl, rfl⟩
        exact ⟨rfl, rfl⟩
      · rintro ⟨rfl, rfl⟩
        exact ⟨rfl, rfl⟩
  | literal c =>
      simp only [readItem?, ItemReads, Option.map_eq_some_iff, Prod.mk.injEq]
      constructor
      · rintro ⟨more, hread, rfl, rfl⟩
        exact ⟨(List.isPrefixOf?_eq_some_iff_append_eq.1 hread).symm, rfl⟩
      · rintro ⟨rfl, rfl⟩
        exact ⟨rest, isPrefixOf?_append [c] rest, rfl, rfl⟩

theorem readItems?_cons_eq_some_iff {item : FormItem} {items : List FormItem}
    {f g : TimeFields} {cs rest : List Char} :
    readItems? (item :: items) f cs = some (g, rest) ↔
      ∃ next more, ItemReads item f cs next more ∧
        readItems? items next more = some (g, rest) := by
  simp only [readItems?, Option.bind_eq_bind, Option.bind_eq_some_iff,
    Prod.exists, readItem?_eq_some_iff]

/-- What reading guarantees of fields that the calendar does not check. -/
structure Bounded (f : TimeFields) : Prop where
  fraction : f.fraction < secondNanos
  offset : IsOffset f.offset

theorem bounded_default : Bounded {} :=
  ⟨by decide, ⟨by decide, by decide⟩⟩

theorem readFraction?_lt {cs rest : List Char} {n : Nat}
    (h : readFraction? cs = some (n, rest)) :
    n < secondNanos := by
  unfold readFraction? at h
  split at h
  next tail =>
      simp only at h
      split at h
      · contradiction
      · obtain ⟨rfl, -⟩ := Prod.mk.inj (Option.some.inj h)
        have hlength : ((tail.takeWhile Char.isDigit).take 9).length ≤ 9 :=
          List.length_take_le 9 _
        have hdigits : ∀ c ∈ (tail.takeWhile Char.isDigit).take 9,
            c.isDigit = true := fun c hc =>
          List.mem_takeWhile_imp (List.mem_of_mem_take hc)
        have hvalue := Numeral.digitsValue_lt hdigits
        generalize (tail.takeWhile Char.isDigit).take 9 =
          kept at hlength hvalue ⊢
        calc Numeral.digitsValue kept * Nat.pow 10 (9 - kept.length)
            < 10 ^ kept.length * 10 ^ (9 - kept.length) :=
              Nat.mul_lt_mul_of_pos_right hvalue (Nat.pow_pos (by decide))
          _ = 10 ^ 9 := by rw [← Nat.pow_add, Nat.add_sub_cancel' hlength]
  next =>
      obtain ⟨rfl, -⟩ := Prod.mk.inj (Option.some.inj h)
      decide

theorem readOffset?_isOffset {cs rest : List Char} {offset : Int}
    (h : readOffset? cs = some (offset, rest)) : IsOffset offset := by
  unfold readOffset? at h
  simp only [Option.bind_eq_bind, Option.bind_eq_some_iff] at h
  obtain ⟨⟨negative, more⟩, -, ⟨hours, more⟩, -, ⟨minutes, more⟩, -, h⟩ := h
  simp only at h
  split at h
  next hfields =>
      obtain ⟨rfl, -⟩ := Prod.mk.inj (Option.some.inj h)
      have habs :
          (Double.signed negative (hours * 3600 + minutes * 60)).natAbs =
          hours * 3600 + minutes * 60 := by
        cases negative <;> simp [Double.signed] <;> omega
      constructor
      · rw [habs]
        unfold DateTime.daySeconds
        omega
      · rw [habs]
        omega
  next => contradiction

/-- Every item keeps the bounds. -/
theorem ItemReads.bounded {item : FormItem} {f g : TimeFields}
    {cs rest : List Char} (h : ItemReads item f cs g rest) (hf : Bounded f) :
    Bounded g := by
  cases item with
  | fraction =>
      obtain ⟨n, hread, rfl⟩ := h
      exact ⟨readFraction?_lt hread, hf.offset⟩
  | offset =>
      obtain ⟨offset, hread, rfl⟩ := h
      exact ⟨hf.fraction, readOffset?_isOffset hread⟩
  | blanks | literal =>
      obtain ⟨-, rfl⟩ := h
      exact hf
  | year | month | day | hour | minute | second =>
      obtain ⟨n, -, rfl⟩ := h
      exact ⟨hf.fraction, hf.offset⟩

theorem readItems?_bounded {items : List FormItem} {f g : TimeFields}
    {cs rest : List Char} (hf : Bounded f)
    (h : readItems? items f cs = some (g, rest)) : Bounded g := by
  induction items generalizing f cs with
  | nil =>
      obtain ⟨rfl, -⟩ := Prod.mk.inj (Option.some.inj h)
      exact hf
  | cons item items ih =>
      obtain ⟨next, more, hitem, hitems⟩ := readItems?_cons_eq_some_iff.1 h
      exact ih (hitem.bounded hf) hitems

theorem bounded_of_read? {form : TimeForm} {cs : List Char} {f : TimeFields}
    (h : read? form cs = some f) : Bounded f := by
  unfold read? at h
  split at h
  next hread =>
      obtain rfl := Option.some.inj h
      exact readItems?_bounded bounded_default hread
  next => contradiction

theorem proper_of_dateTime? {f : TimeFields} {t : DateTime} (hf : Bounded f)
    (h : f.dateTime? = some t) : t.Proper := by
  unfold TimeFields.dateTime? at h
  split at h
  next hvalid =>
      obtain rfl := Option.some.inj h
      rw [Bool.and_eq_true] at hvalid
      refine ⟨hvalid.1, hvalid.2, ?_⟩
      have hfraction := hf.fraction
      unfold TimeFields.clock
      split
      · intro _
        rfl
      · intro hleap
        exact absurd hfraction (Nat.not_lt.2 hleap)
  next => contradiction

theorem proper_of_naive? {form : TimeForm} {cs : List Char} {m : Moment}
    (h : naive? cs form = some m) : m.Proper := by
  obtain ⟨f, hread, h⟩ := Option.bind_eq_some_iff.1 h
  obtain ⟨t, htime, rfl⟩ := Option.map_eq_some_iff.1 h
  exact proper_of_dateTime? (bounded_of_read? hread) htime

theorem proper_of_zoned? {form : TimeForm} {cs : List Char} {m : Moment}
    (h : zoned? cs form = some m) : m.Proper := by
  obtain ⟨f, hread, h⟩ := Option.bind_eq_some_iff.1 h
  obtain ⟨wall, htime, h⟩ := Option.bind_eq_some_iff.1 h
  have hbounded := bounded_of_read? hread
  have hwall := proper_of_dateTime? hbounded htime
  obtain ⟨-, rfl⟩ := Moment.ofWallClock?_eq_some_iff.1 h
  exact ⟨hbounded.offset, wall, hwall, h⟩

end TimeForm

namespace Moment

open TimeForm

/-- Every timestamp that is read is proper. -/
theorem proper_of_ofChars? {cs : List Char} {m : Moment}
    (h : ofChars? cs = some m) :
    m.Proper := by
  unfold ofChars? ofTrimmed? at h
  split at h
  · obtain ⟨form, -, hzoned⟩ := List.exists_of_findSome?_eq_some h
    exact proper_of_zoned? hzoned
  · rcases Option.or_eq_some_iff.1 h with h | ⟨-, h⟩
    · rcases Option.or_eq_some_iff.1 h with h | ⟨-, h⟩
      · obtain ⟨form, -, hzoned⟩ := List.exists_of_findSome?_eq_some h
        exact proper_of_zoned? hzoned
      · obtain ⟨form, -, hnaive⟩ := List.exists_of_findSome?_eq_some h
        exact proper_of_naive? hnaive
    · exact proper_of_naive? h

theorem proper_of_ofText? {s : String} {m : Moment} (h : ofText? s = some m) :
    m.Proper :=
  proper_of_ofChars? h

end Moment

end Stencil

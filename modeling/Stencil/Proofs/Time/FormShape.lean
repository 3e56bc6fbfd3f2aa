/-
What the items of a form take from a text.  The characters that each item admits
tell the three groups of forms apart: a date has no colon, and after the first
colon of a text there is a sign if and only if the form has an offset.
-/
import Stencil.Proofs.Time.Proper

namespace Stencil

open Text

/-- The characters that an item may take. -/
def FormItem.admits (item : FormItem) (c : Char) : Bool :=
  match item with
  | year => c.isDigit || isBlank c || c == '-' || c == '+'
  | month | day | hour | minute | second => c.isDigit || isBlank c
  | fraction => c.isDigit || c == '.'
  | offset => c.isDigit || isBlank c || c == ':' || TimeForm.isOffsetSign c
  | blanks => isBlank c
  | literal d => c == d

namespace TimeForm

variable {item : FormItem} {items : List FormItem} {f g : TimeFields}
  {cs rest : List Char}

/-- Digits are read if and only if they stand at the head of the text and fill
the width, or something stops them. -/
theorem readDigits?_iff {width n : Nat} :
    readDigits? width cs = some (n, rest) ↔
      ∃ ds, cs = ds ++ rest ∧ ds ≠ [] ∧ (∀ c ∈ ds, c.isDigit = true) ∧
        ds.length ≤ width ∧
        (ds.length = width ∨ Stops Char.isDigit rest) ∧
        n = Numeral.digitsValue ds := by
  constructor
  · intro h
    unfold readDigits? at h
    simp only at h
    split at h
    · contradiction
    next hne =>
        obtain ⟨rfl, rfl⟩ := Prod.mk.inj (Option.some.inj h)
        have hhead : (cs.take width).takeWhile Char.isDigit <+: cs :=
          (List.takeWhile_prefix _).trans (List.take_prefix width cs)
        have hlength : ((cs.take width).takeWhile Char.isDigit).length ≤
            width :=
          (List.takeWhile_prefix _).length_le.trans
            (List.length_take_le width cs)
        have hstops := stops_dropWhile Char.isDigit (cs.take width)
        have hsplit : (cs.take width).takeWhile Char.isDigit ++
            (cs.take width).dropWhile Char.isDigit = cs.take width :=
          List.takeWhile_append_dropWhile
        have hdigits : ∀ c ∈ (cs.take width).takeWhile Char.isDigit,
            c.isDigit = true := fun c hc =>
          List.mem_takeWhile_imp hc
        generalize (cs.take width).takeWhile Char.isDigit = ds at *
        generalize (cs.take width).dropWhile Char.isDigit = after at *
        obtain ⟨tail, rfl⟩ := hhead
        refine ⟨ds, by rw [List.drop_left], by simpa using hne, hdigits,
          hlength, ?_, rfl⟩
        rw [List.drop_left]
        rw [List.take_append, List.take_of_length_le hlength,
          List.append_right_inj] at hsplit
        rcases Nat.eq_or_lt_of_le hlength with hfull | hlt
        · exact Or.inl hfull
        · refine Or.inr fun c hc => hstops c ?_
          rw [hsplit, List.head?_take, if_neg (by omega)]
          exact hc
  · rintro ⟨ds, rfl, hne, hdigits, hlength, hstop, rfl⟩
    exact readDigits?_run hne hdigits hlength hstop

/-- Digits that are not limited in number are read until something stops
them. -/
theorem readDigits?_length_iff {n : Nat} :
    readDigits? cs.length cs = some (n, rest) ↔
      ∃ ds, cs = ds ++ rest ∧ ds ≠ [] ∧ (∀ c ∈ ds, c.isDigit = true) ∧
        Stops Char.isDigit rest ∧ n = Numeral.digitsValue ds := by
  rw [readDigits?_iff]
  constructor
  · rintro ⟨ds, rfl, hne, hdigits, -, hstop, hvalue⟩
    refine ⟨ds, rfl, hne, hdigits, hstop.elim (fun hall => ?_) id, hvalue⟩
    rw [List.length_append] at hall
    rw [List.length_eq_zero_iff.1 (by omega : rest.length = 0)]
    exact stops_nil _
  · rintro ⟨ds, rfl, hne, hdigits, hstop, hvalue⟩
    exact ⟨ds, rfl, hne, hdigits, by simp, Or.inr hstop, hvalue⟩

/-- One digit or two. -/
structure IsField (cs : List Char) : Prop where
  nonempty : cs ≠ []
  digits : ∀ c ∈ cs, c.isDigit = true
  short : cs.length ≤ 2

/-- A field is read if and only if it stands at the head of the text, white
space in front of it aside. -/
theorem readField?_iff {n : Nat} :
    readField? cs = some (n, rest) ↔
      ∃ blanks ds, cs = blanks ++ (ds ++ rest) ∧
        (∀ c ∈ blanks, isBlank c = true) ∧ IsField ds ∧
        (ds.length = 2 ∨ Stops Char.isDigit rest) ∧
        n = Numeral.digitsValue ds := by
  rw [readField?, readDigits?_iff]
  constructor
  · rintro ⟨ds, hdrop, hne, hdigits, hshort, hstop, hvalue⟩
    refine ⟨cs.takeWhile isBlank, ds, ?_, fun c hc => List.mem_takeWhile_imp hc,
      ⟨hne, hdigits, hshort⟩, hstop, hvalue⟩
    rw [← hdrop, List.takeWhile_append_dropWhile]
  · rintro ⟨blanks, ds, rfl, hblanks, ⟨hne, hdigits, hshort⟩, hstop, hvalue⟩
    refine ⟨ds, dropWhile_run hblanks ?_, hne, hdigits, hshort, hstop, hvalue⟩
    obtain ⟨c, tail, rfl⟩ := List.exists_cons_of_ne_nil hne
    exact stops_cons.2
      (isBlank_eq_false_of_isDigit (hdigits c List.mem_cons_self))

/-- The text of a year in front of a rest: up to four digits, or a sign and all
digits that follow it. -/
inductive YearText (rest : List Char) : List Char → Int → Prop where
  | plain {ds : List Char} (nonempty : ds ≠ [])
      (digits : ∀ c ∈ ds, c.isDigit = true)
      (short : ds.length ≤ 4) (stop : ds.length = 4 ∨ Stops Char.isDigit rest) :
      YearText rest ds (Numeral.digitsValue ds)
  | minus {ds : List Char} (nonempty : ds ≠ [])
      (digits : ∀ c ∈ ds, c.isDigit = true)
      (stop : Stops Char.isDigit rest) : YearText rest ('-' :: ds)
        (-(Numeral.digitsValue ds : Int))
  | plus {ds : List Char} (nonempty : ds ≠ [])
      (digits : ∀ c ∈ ds, c.isDigit = true)
      (stop : Stops Char.isDigit rest) : YearText rest ('+' :: ds)
        (Numeral.digitsValue ds)

/-- Another rest may follow a year if it stops digits as well. -/
theorem YearText.imp {rest' text : List Char} {n : Int}
    (h : YearText rest text n)
    (hrest : Stops Char.isDigit rest → Stops Char.isDigit rest') :
    YearText rest' text n := by
  cases h with
  | plain hne hdigits hshort hstop =>
      exact .plain hne hdigits hshort (hstop.imp_right hrest)
  | minus hne hdigits hstop => exact .minus hne hdigits (hrest hstop)
  | plus hne hdigits hstop => exact .plus hne hdigits (hrest hstop)

theorem YearText.admitted {text : List Char} {n : Int}
    (h : YearText rest text n) :
    ∀ c ∈ text, FormItem.year.admits c = true := by
  have hdigit : ∀ ds : List Char, (∀ c ∈ ds, c.isDigit = true) →
      ∀ c ∈ ds, FormItem.year.admits c = true := by
    intro ds hds c hc
    simp [FormItem.admits, hds c hc]
  cases h with
  | plain _ hdigits => exact hdigit _ hdigits
  | minus _ hdigits =>
      exact List.forall_mem_cons.2 ⟨by decide, hdigit _ hdigits⟩
  | plus _ hdigits => exact List.forall_mem_cons.2 ⟨by decide, hdigit _ hdigits⟩

/-- A year is read if and only if it stands at the head of the text, white space
in front of it aside. -/
theorem readYear?_iff {n : Int} :
    readYear? cs = some (n, rest) ↔
      ∃ blanks text, cs = blanks ++ (text ++ rest) ∧
        (∀ c ∈ blanks, isBlank c = true) ∧ YearText rest text n := by
  constructor
  · intro h
    have hfront : ∀ {text : List Char}, cs.dropWhile isBlank = text ++ rest →
        YearText rest text n →
        ∃ blanks text, cs = blanks ++ (text ++ rest) ∧
          (∀ c ∈ blanks, isBlank c = true) ∧ YearText rest text n := by
      intro text hdrop hyear
      refine ⟨cs.takeWhile isBlank, text, ?_, fun c hc =>
        List.mem_takeWhile_imp hc, hyear⟩
      rw [← hdrop, List.takeWhile_append_dropWhile]
    unfold readYear? at h
    split at h
    next tail hdrop =>
        obtain ⟨⟨value, after⟩, hread, heq⟩ := Option.map_eq_some_iff.1 h
        obtain ⟨rfl, rfl⟩ := Prod.mk.inj heq
        obtain ⟨ds, rfl, hne, hdigits, hstop, rfl⟩ :=
          readDigits?_length_iff.1 hread
        exact hfront hdrop (.minus hne hdigits hstop)
    next tail hdrop =>
        obtain ⟨⟨value, after⟩, hread, heq⟩ := Option.map_eq_some_iff.1 h
        obtain ⟨rfl, rfl⟩ := Prod.mk.inj heq
        obtain ⟨ds, rfl, hne, hdigits, hstop, rfl⟩ :=
          readDigits?_length_iff.1 hread
        exact hfront hdrop (.plus hne hdigits hstop)
    next =>
        obtain ⟨⟨value, after⟩, hread, heq⟩ := Option.map_eq_some_iff.1 h
        obtain ⟨rfl, rfl⟩ := Prod.mk.inj heq
        obtain ⟨ds, hdrop, hne, hdigits, hshort, hstop, rfl⟩ :=
          readDigits?_iff.1 hread
        exact hfront hdrop (.plain hne hdigits hshort hstop)
  · rintro ⟨blanks, text, rfl, hblanks, hyear⟩
    cases hyear with
    | minus hne hdigits hstop =>
        have hread :=
          readDigits?_length_iff.2 ⟨_, rfl, hne, hdigits, hstop, rfl⟩
        rw [readYear?, List.cons_append,
          dropWhile_run hblanks (stops_cons.2 (by decide))]
        simp only [hread, Option.map_some]
    | plus hne hdigits hstop =>
        have hread :=
          readDigits?_length_iff.2 ⟨_, rfl, hne, hdigits, hstop, rfl⟩
        rw [readYear?, List.cons_append,
          dropWhile_run hblanks (stops_cons.2 (by decide))]
        simp only [hread, Option.map_some]
    | plain hne hdigits hshort hstop =>
        have hread :=
          readDigits?_iff.2 ⟨_, rfl, hne, hdigits, hshort, hstop, rfl⟩
        obtain ⟨c, tail, rfl⟩ := List.exists_cons_of_ne_nil hne
        have hc := hdigits c List.mem_cons_self
        rw [readYear?, List.cons_append,
          dropWhile_run hblanks (stops_cons.2 (isBlank_eq_false_of_isDigit hc))]
        split
        next heq =>
            exact absurd (List.cons.inj heq).1 (ne_of_class hc (by decide))
        next heq =>
            exact absurd (List.cons.inj heq).1 (ne_of_class hc (by decide))
        next =>
            rw [← List.cons_append, hread]
            rfl

/-- The text of a fraction in front of a rest: a point and all digits that
follow it, or nothing if there is no point. -/
inductive FractionText (rest : List Char) : List Char → Nat → Prop where
  | point {ds : List Char} (nonempty : ds ≠ [])
      (digits : ∀ c ∈ ds, c.isDigit = true)
      (stop : Stops Char.isDigit rest) :
      FractionText rest ('.' :: ds)
        (Numeral.digitsValue (ds.take 9) * Nat.pow 10 (9 - (ds.take 9).length))
  | none (stop : Stops (· == '.') rest) : FractionText rest [] 0

/-- Another rest may follow a fraction if it stops digits and points as well. -/
theorem FractionText.imp {rest' text : List Char} {n : Nat}
    (h : FractionText rest text n)
    (hdigit : Stops Char.isDigit rest → Stops Char.isDigit rest')
    (hpoint : Stops (· == '.') rest → Stops (· == '.') rest') :
    FractionText rest' text n := by
  cases h with
  | point hne hdigits hstop => exact .point hne hdigits (hdigit hstop)
  | none hstop => exact .none (hpoint hstop)

theorem FractionText.admitted {text : List Char} {n : Nat}
    (h : FractionText rest text n) :
    ∀ c ∈ text, FormItem.fraction.admits c = true := by
  cases h with
  | none => simp
  | point _ hdigits =>
      refine List.forall_mem_cons.2 ⟨by decide, fun c hc => ?_⟩
      simp [FormItem.admits, hdigits c hc]

/-- A fraction is read if and only if it stands at the head of the text. -/
theorem readFraction?_iff {n : Nat} :
    readFraction? cs = some (n, rest) ↔ ∃ text, cs = text ++ rest ∧
      FractionText rest text n := by
  constructor
  · intro h
    unfold readFraction? at h
    split at h
    next tail =>
        simp only at h
        split at h
        · contradiction
        next hne =>
            obtain ⟨rfl, rfl⟩ := Prod.mk.inj (Option.some.inj h)
            refine ⟨'.' :: tail.takeWhile Char.isDigit, by simp,
              .point (by simpa using hne) ?_ ?_⟩
            · exact fun c hc => List.mem_takeWhile_imp hc
            · exact stops_dropWhile Char.isDigit tail
    next hpoint =>
        obtain ⟨rfl, rfl⟩ := Prod.mk.inj (Option.some.inj h)
        refine ⟨[], rfl, .none ?_⟩
        cases cs with
        | nil => exact stops_nil _
        | cons c cs =>
            exact stops_cons.2 (beq_eq_false_iff_ne.2 fun heq =>
              hpoint cs (by rw [heq]))
  · rintro ⟨text, rfl, hfraction⟩
    cases hfraction with
    | point hne hdigits hstop =>
        rw [List.cons_append, readFraction?]
        simp only [takeWhile_run hdigits hstop, dropWhile_run hdigits hstop]
        rw [if_neg (by simpa using hne)]
    | none hstop =>
        apply readFraction?_of_head?
        intro hpoint
        exact absurd (hstop '.' hpoint) (by decide)

theorem readPair?_taken {n : Nat} (h : readPair? cs = some (n, rest)) :
    ∃ taken, cs = taken ++ rest ∧ ∀ c ∈ taken, c.isDigit = true := by
  unfold readPair? at h
  split at h
  next a b tail =>
      split at h
      next hdigits =>
          obtain ⟨-, rfl⟩ := Prod.mk.inj (Option.some.inj h)
          rw [Bool.and_eq_true] at hdigits
          exact ⟨[a, b], rfl, by simpa using hdigits⟩
      next => contradiction
  next => contradiction

theorem readOffsetSign?_taken {negative : Bool}
    (h : readOffsetSign? cs = some (negative, rest)) :
    ∃ c, cs = c :: rest ∧ isOffsetSign c = true := by
  cases cs with
  | nil => contradiction
  | cons c tail =>
      rw [readOffsetSign?] at h
      split_ifs at h with hplus hminus
      · obtain ⟨-, rfl⟩ := Prod.mk.inj (Option.some.inj h)
        exact ⟨c, rfl, by simp [isOffsetSign, hplus]⟩
      · obtain ⟨-, rfl⟩ := Prod.mk.inj (Option.some.inj h)
        rcases hminus with rfl | rfl
        all_goals exact ⟨_, rfl, by decide⟩

/-- An offset is read from a sign, with white space before it and no sign behind
it. -/
theorem readOffset?_taken {n : Int} (h : readOffset? cs = some (n, rest)) :
    ∃ before sign after, cs = before ++ (sign :: after ++ rest) ∧
      (∀ c ∈ before, isBlank c = true) ∧ isOffsetSign sign = true ∧
      ∀ c ∈ after, (c.isDigit || isBlank c || c == ':') = true := by
  unfold readOffset? at h
  simp only [Option.bind_eq_bind, Option.bind_eq_some_iff] at h
  obtain ⟨⟨negative, afterSign⟩, hsign, ⟨hours, afterHours⟩, hhours,
    ⟨minutes, afterMinutes⟩, hminutes, h⟩ := h
  simp only at hhours hminutes h
  split at h
  next =>
      obtain ⟨-, rfl⟩ := Prod.mk.inj (Option.some.inj h)
      obtain ⟨sign, hdrop, hissign⟩ := readOffsetSign?_taken hsign
      obtain ⟨hourDigits, rfl, hhourDigits⟩ := readPair?_taken hhours
      obtain ⟨minuteDigits, hbetween, hminuteDigits⟩ := readPair?_taken hminutes
      let between := afterHours.takeWhile fun c => c == ':' || isBlank c
      refine ⟨cs.takeWhile isBlank, sign,
        hourDigits ++ (between ++ minuteDigits), ?_,
        fun c hc => List.mem_takeWhile_imp hc, hissign, ?_⟩
      · have hsplit : between ++ (minuteDigits ++ afterMinutes) =
            afterHours := by
          rw [← hbetween]
          exact List.takeWhile_append_dropWhile
        simp only [List.append_assoc, List.cons_append, hsplit, ← hdrop,
          List.takeWhile_append_dropWhile]
      · have hgap : ∀ c ∈ between, (c == ':' || isBlank c) = true := fun c hc =>
          List.mem_takeWhile_imp (p := fun c => c == ':' || isBlank c) hc
        simp only [List.forall_mem_append]
        refine ⟨fun c hc => ?_, fun c hc => ?_, fun c hc => ?_⟩
        · simp [hhourDigits c hc]
        · have hc := hgap c hc
          rw [Bool.or_eq_true] at hc
          rcases hc with hc | hc <;> simp [hc]
        · simp [hminuteDigits c hc]
  next => contradiction

/-- Every item takes characters that it admits from the head of the text. -/
theorem ItemReads.taken (h : ItemReads item f cs g rest) :
    ∃ taken, cs = taken ++ rest ∧ ∀ c ∈ taken, item.admits c = true := by
  cases item with
  | year =>
      obtain ⟨n, hread, -⟩ := h
      obtain ⟨blanks, text, hcs, hblanks, hyear⟩ := readYear?_iff.1 hread
      refine ⟨blanks ++ text, by rw [hcs, List.append_assoc],
        List.forall_mem_append.2 ⟨fun c hc => ?_, hyear.admitted⟩⟩
      simp [FormItem.admits, hblanks c hc]
  | month | day | hour | minute | second =>
      obtain ⟨n, hread, -⟩ := h
      obtain ⟨blanks, ds, hcs, hblanks, hfield, -, -⟩ := readField?_iff.1 hread
      refine ⟨blanks ++ ds, by rw [hcs, List.append_assoc],
        List.forall_mem_append.2 ⟨fun c hc => ?_, fun c hc => ?_⟩⟩
      · simp [FormItem.admits, hblanks c hc]
      · simp [FormItem.admits, hfield.digits c hc]
  | fraction =>
      obtain ⟨n, hread, -⟩ := h
      obtain ⟨text, hcs, hfraction⟩ := readFraction?_iff.1 hread
      exact ⟨text, hcs, hfraction.admitted⟩
  | offset =>
      obtain ⟨n, hread, -⟩ := h
      obtain ⟨before, sign, after, hcs, hbefore, hsign, hafter⟩ :=
        readOffset?_taken hread
      refine ⟨before ++ sign :: after, by rw [hcs, List.append_assoc], ?_⟩
      simp only [List.forall_mem_append, List.forall_mem_cons, FormItem.admits]
      refine ⟨fun c hc => by simp [hbefore c hc], by simp [hsign],
        fun c hc => ?_⟩
      rw [hafter c hc, Bool.true_or]
  | blanks =>
      obtain ⟨rfl, -⟩ := h
      exact ⟨_, List.takeWhile_append_dropWhile.symm, fun c hc =>
        List.mem_takeWhile_imp hc⟩
  | literal d =>
      obtain ⟨rfl, -⟩ := h
      exact ⟨[d], rfl, by simp [FormItem.admits]⟩

theorem readItems?_taken (h : readItems? items f cs = some (g, rest)) :
    ∃ taken, cs = taken ++ rest ∧ ∀ c ∈ taken, ∃ item ∈ items,
      item.admits c = true := by
  induction items generalizing f cs with
  | nil =>
      obtain ⟨-, rfl⟩ := Prod.mk.inj (Option.some.inj h)
      exact ⟨[], rfl, by simp⟩
  | cons item items ih =>
      obtain ⟨next, more, hitem, hitems⟩ := readItems?_cons_eq_some_iff.1 h
      obtain ⟨first, rfl, hfirst⟩ := hitem.taken
      obtain ⟨second, rfl, hsecond⟩ := ih hitems
      refine ⟨first ++ second, by rw [List.append_assoc], ?_⟩
      rw [List.forall_mem_append]
      constructor
      · exact fun c hc => ⟨item, List.mem_cons_self, hfirst c hc⟩
      · intro c hc
        obtain ⟨other, hother, hadmits⟩ := hsecond c hc
        exact ⟨other, List.mem_cons_of_mem item hother, hadmits⟩

/-- A character that no item admits is not taken. -/
theorem not_mem_of_readItems? (h : readItems? items f cs = some (g, rest)) :
    ∃ taken, cs = taken ++ rest ∧ ∀ c, (∀ item ∈ items, item.admits c = false) →
      c ∉ taken := by
  obtain ⟨taken, hcs, hadmits⟩ := readItems?_taken h
  refine ⟨taken, hcs, fun c hnone hc => ?_⟩
  obtain ⟨item, hitem, hadmits⟩ := hadmits c hc
  rw [hnone item hitem] at hadmits
  contradiction

theorem readItems?_append (first second : List FormItem) (f : TimeFields)
    (cs : List Char) :
    readItems? (first ++ second) f cs =
      (readItems? first f cs).bind fun (g, rest) =>
        readItems? second g rest := by
  induction first generalizing f cs with
  | nil => rfl
  | cons item first ih =>
      simp only [List.cons_append, readItems?, Option.bind_eq_bind, ih,
        Option.bind_assoc]

theorem readItems?_append_eq_some {first second : List FormItem}
    (h : readItems? (first ++ second) f cs = some (g, rest)) :
    ∃ next more, readItems? first f cs = some (next, more) ∧
      readItems? second next more = some (g, rest) := by
  rw [readItems?_append] at h
  obtain ⟨⟨next, more⟩, hfirst, hsecond⟩ := Option.bind_eq_some_iff.1 h
  exact ⟨next, more, hfirst, hsecond⟩

theorem readItems?_of_read? {form : TimeForm} (h : read? form cs = some f) :
    readItems? form {} cs = some (f, []) := by
  unfold read? at h
  split at h
  next hread =>
      rw [hread, Option.some.inj h]
  next => contradiction

/-- The items that may follow the minute of a clock. -/
def clockTails : List TimeForm :=
  [[.literal ':', .second, .fraction], [.literal ':', .second], []]

/-- A form with a clock is a date, a separator, hour and minute, and a tail. -/
theorem exists_of_mem_naiveForms {form : TimeForm} (h : form ∈ naiveForms) :
    ∃ separator ∈ separators, ∃ tail ∈ clockTails,
      form = date ++
        ([separator, .hour] ++ (.literal ':' :: .minute :: tail)) := by
  simp only [naiveForms, List.mem_flatMap, List.mem_map] at h
  obtain ⟨clock, hclock, separator, hseparator, rfl⟩ := h
  refine ⟨separator, hseparator, ?_⟩
  simp only [clocks, List.mem_cons, List.not_mem_nil, or_false] at hclock
  rcases hclock with rfl | rfl | rfl
  · exact ⟨_, List.mem_cons_self, rfl⟩
  · exact ⟨_, List.mem_cons_of_mem _ List.mem_cons_self, rfl⟩
  · exact ⟨[], by decide, rfl⟩

theorem exists_of_mem_zonedForms {form : TimeForm} (h : form ∈ zonedForms) :
    ∃ plain ∈ naiveForms, form = plain ++ [.offset] := by
  obtain ⟨plain, hplain, rfl⟩ := List.mem_map.1 h
  exact ⟨plain, hplain, rfl⟩

/-- A date has no colon. -/
theorem colon_not_mem_of_date (h : read? date cs = some f) : ':' ∉ cs := by
  obtain ⟨taken, hcs, hnone⟩ := not_mem_of_readItems? (readItems?_of_read? h)
  rw [hcs, List.append_nil]
  exact hnone ':' (by decide)

theorem admits_sign {tail : TimeForm} (htail : tail ∈ clockTails) {c : Char}
    (hc : isOffsetSign c = true) :
    ∀ item ∈ .minute :: tail, item.admits c = false := by
  have hsigns : ∀ tail ∈ clockTails, ∀ item ∈ .minute :: tail,
      item.admits '+' = false ∧ item.admits '-' = false ∧
        item.admits '\u2212' = false := by decide
  intro item hitem
  obtain ⟨hplus, hminus, hproper⟩ := hsigns tail htail item hitem
  rcases eq_of_isOffsetSign hc with rfl | rfl | rfl
  · exact hplus
  · exact hminus
  · exact hproper

/-- The first colon that a form with a clock reads stands behind the hour, and
no sign follows it. -/
theorem exists_colon_of_naive {form : TimeForm} (hform : form ∈ naiveForms)
    (h : readItems? form {} cs = some (f, rest)) :
    ∃ before after, cs = before ++ ':' :: (after ++ rest) ∧ ':' ∉ before ∧
      ∀ c ∈ after, isOffsetSign c = false := by
  obtain ⟨separator, hseparator, tail, htail, rfl⟩ :=
    exists_of_mem_naiveForms hform
  rw [← List.append_assoc] at h
  obtain ⟨next, more, hfirst, hsecond⟩ := readItems?_append_eq_some h
  obtain ⟨before, rfl, hbefore⟩ := not_mem_of_readItems? hfirst
  obtain ⟨next', more', ⟨rfl, rfl⟩, htailRead⟩ :=
    readItems?_cons_eq_some_iff.1 hsecond
  obtain ⟨after, rfl, hafter⟩ := not_mem_of_readItems? htailRead
  refine ⟨before, after, rfl, hbefore ':' ?_, fun c hc =>
    Bool.not_eq_true _ ▸ fun hsign => ?_⟩
  · have hseparators : ∀ separator ∈ separators,
        ∀ item ∈ date ++ [separator, .hour],
        item.admits ':' = false := by decide
    exact hseparators separator hseparator
  · exact hafter c (admits_sign htail hsign) hc

end TimeForm

/-- The groups of forms. -/
inductive FormGroup where
  | zoned
  | naive
  | date
deriving DecidableEq, Repr

namespace FormGroup

open TimeForm

/-- The forms of a group, in the order in which they are tried. -/
def forms : FormGroup → List TimeForm
  | zoned => zonedForms
  | naive => naiveForms
  | date => [TimeForm.date]

/-- The group that the colons and signs of a text tell. -/
def ofChars (cs : List Char) : FormGroup :=
  if ':' ∉ cs then date
  else if (cs.dropWhile (· ≠ ':')).any isOffsetSign then zoned
  else naive

theorem ofChars_colon {before after : List Char} (hbefore : ':' ∉ before) :
    ofChars (before ++ ':' :: after) =
      if after.any isOffsetSign then zoned else naive := by
  have hrun : ∀ c ∈ before, decide (c ≠ ':') = true := fun c hc =>
    decide_eq_true (ne_of_mem_of_not_mem hc hbefore)
  have hstops : Stops (fun c => decide (c ≠ ':')) (':' :: after) :=
    stops_cons.2 (by decide)
  rw [ofChars, if_neg (by simp), dropWhile_run hrun hstops, List.any_cons]
  rfl

/-- A form reads texts of its own group only. -/
theorem ofChars_eq {group : FormGroup} {form : TimeForm} {cs : List Char}
    {f : TimeFields} (hform : form ∈ group.forms) (h : read? form cs = some f) :
    ofChars cs = group := by
  cases group with
  | date =>
      obtain rfl := List.mem_singleton.1 hform
      exact if_pos (colon_not_mem_of_date h)
  | naive =>
      obtain ⟨before, after, rfl, hbefore, hafter⟩ :=
        exists_colon_of_naive hform (readItems?_of_read? h)
      rw [ofChars_colon hbefore, List.append_nil, if_neg]
      simpa using hafter
  | zoned =>
      obtain ⟨plain, hplain, rfl⟩ := exists_of_mem_zonedForms hform
      obtain ⟨next, more, hfirst, hsecond⟩ :=
        readItems?_append_eq_some (readItems?_of_read? h)
      obtain ⟨before, after, rfl, hbefore, -⟩ :=
        exists_colon_of_naive hplain hfirst
      obtain ⟨next', more', ⟨n, hread, -⟩, -⟩ :=
        readItems?_cons_eq_some_iff.1 hsecond
      obtain ⟨blanks, sign, offset, rfl, -, hsign, -⟩ := readOffset?_taken hread
      rw [ofChars_colon hbefore, if_pos]
      rw [List.any_eq_true]
      exact ⟨sign, by simp, hsign⟩

end FormGroup

end Stencil

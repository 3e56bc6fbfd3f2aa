/-
The order of the forms.  A text is read by forms of one group at most, and those
of a group that read it find the same fields, so the order in which forms and
groups are tried makes no difference.
-/
import Stencil.Proofs.Time.FormShape

namespace Stencil

open Text

namespace TimeForm

variable {item : FormItem} {items : List FormItem} {f g : TimeFields}
  {cs rest : List Char}

theorem ItemReads.fraction_eq (h : ItemReads item f cs g rest)
    (hitem : item ≠ .fraction) :
    g.fraction = f.fraction := by
  cases item with
  | fraction => contradiction
  | blanks | literal =>
      obtain ⟨-, rfl⟩ := h
      rfl
  | year | month | day | hour | minute | second | offset =>
      obtain ⟨n, -, rfl⟩ := h
      rfl

/-- Only its own item sets the fraction. -/
theorem readItems?_fraction_eq (hitems : .fraction ∉ items)
    (h : readItems? items f cs = some (g, rest)) : g.fraction = f.fraction := by
  induction items generalizing f cs with
  | nil =>
      obtain ⟨rfl, -⟩ := Prod.mk.inj (Option.some.inj h)
      rfl
  | cons item items ih =>
      rw [List.mem_cons, not_or] at hitems
      obtain ⟨next, more, hitem, hrest⟩ := readItems?_cons_eq_some_iff.1 h
      exact (ih hitems.2 hrest).trans (hitem.fraction_eq (Ne.symm hitems.1))

/-- An hour skips white space in front of it as well. -/
theorem readItems?_blanks_hour (items : List FormItem) (f : TimeFields)
    (cs : List Char) :
    readItems? (.blanks :: .hour :: items) f cs =
      readItems? (.hour :: items) f cs := by
  have hskip : (cs.dropWhile isBlank).dropWhile isBlank =
      cs.dropWhile isBlank :=
    dropWhile_eq_self_of_stops (stops_dropWhile isBlank cs)
  simp only [readItems?, readItem?, readField?, hskip, Option.bind_eq_bind,
    Option.bind_some]

theorem readItems?_hour_T (items : List FormItem) (f : TimeFields)
    (cs : List Char) :
    readItems? (.hour :: items) f ('T' :: cs) = none := by
  have hskip : ('T' :: cs).dropWhile isBlank = 'T' :: cs :=
    dropWhile_eq_self_of_stops (stops_cons.2 (by decide))
  have hread : readField? ('T' :: cs) = none := by
    rw [readField?, hskip]
    rfl
  simp [readItems?, readItem?, hread]

/-- What stands between date and hour fits one separator only. -/
theorem separator_unique {item' : FormItem} {items' : List FormItem}
    {read read' : TimeFields × List Char} (hitem : item ∈ separators)
    (hitem' : item' ∈ separators)
    (h : readItems? (item :: .hour :: items) f cs = some read)
    (h' : readItems? (item' :: .hour :: items') f cs = some read') :
    item = item' := by
  have hclash : ∀ {items items' : List FormItem}
      {read read' : TimeFields × List Char},
      readItems? (.literal 'T' :: .hour :: items) f cs = some read →
        readItems? (.blanks :: .hour :: items') f cs ≠ some read' := by
    intro items items' read read' hletter hblanks
    obtain ⟨next, more, ⟨rfl, -⟩, -⟩ := readItems?_cons_eq_some_iff.1 hletter
    rw [readItems?_blanks_hour, readItems?_hour_T] at hblanks
    contradiction
  simp only [separators, List.mem_cons, List.not_mem_nil,
    or_false] at hitem hitem'
  rcases hitem with rfl | rfl <;> rcases hitem' with rfl | rfl
  · rfl
  · exact absurd h' (hclash h)
  · exact absurd h (hclash h')
  · rfl

/-- An offset begins with a sign. -/
theorem readItems?_offset_none {c : Char} (hblank : isBlank c = false)
    (hplus : c ≠ '+') (hminus : c ≠ '-') (hproper : c ≠ '\u2212')
    (f : TimeFields) (rest : List Char) :
    readItems? [.offset] f (c :: rest) = none := by
  have hskip : (c :: rest).dropWhile isBlank = c :: rest :=
    dropWhile_eq_self_of_stops (stops_cons.2 hblank)
  have hsign : readOffsetSign? (c :: rest) = none := by
    rw [readOffsetSign?, if_neg hplus, if_neg (by simp [hminus, hproper])]
  simp [readItems?, readItem?, readOffset?, hskip, hsign]

/-- What a form goes on with behind its clock: nothing, or an offset. -/
def IsEnding (items : List FormItem) : Prop :=
  items = [] ∨ items = [.offset]

/-- An ending takes no colon and no point. -/
theorem IsEnding.head?_ne {ending : List FormItem} (hending : IsEnding ending)
    (h : readItems? ending f cs = some (g, [])) :
    cs.head? ≠ some ':' ∧ cs.head? ≠ some '.' := by
  rcases hending with rfl | rfl
  · obtain ⟨-, rfl⟩ := Prod.mk.inj (Option.some.inj h)
    simp
  · cases cs with
    | nil => simp
    | cons c cs =>
        rw [List.head?_cons, ne_eq, ne_eq, Option.some.injEq, Option.some.injEq]
        constructor <;> rintro rfl
        all_goals
          rw [readItems?_offset_none (by decide) (by decide) (by decide)
            (by decide)] at h
          contradiction

/-- The reading behind the minute, by whether a colon follows. -/
def readTail? (ending : List FormItem) (f : TimeFields) (cs : List Char) :
    Option (TimeFields × List Char) :=
  if cs.head? = some ':' then
    readItems? (.literal ':' :: .second :: .fraction :: ending) f cs
  else readItems? ending f cs

/-- Every tail that reads the rest of a text reads what `readTail?` does. -/
theorem readTail?_of_readItems? {tail ending : List FormItem}
    (htail : tail ∈ clockTails) (hending : IsEnding ending)
    (hf : f.fraction = 0)
    (h : readItems? (tail ++ ending) f cs = some (g, [])) :
    readTail? ending f cs = some (g, []) := by
  have hcolon : ∀ {items : List FormItem},
      readItems? (.literal ':' :: items) f cs = some (g, []) →
      cs.head? = some ':' := by
    intro items h
    obtain ⟨next, more, ⟨rfl, -⟩, -⟩ := readItems?_cons_eq_some_iff.1 h
    rfl
  simp only [clockTails, List.mem_cons, List.not_mem_nil, or_false] at htail
  unfold readTail?
  rcases htail with rfl | rfl | rfl
  · rw [if_pos (hcolon h)]
    exact h
  · rw [if_pos (hcolon h)]
    obtain ⟨next, more, hsecond, hrest⟩ := readItems?_append_eq_some h
    have hfraction : next.fraction = 0 :=
      (readItems?_fraction_eq (by decide) hsecond).trans hf
    have hnone := readFraction?_of_head? (hending.head?_ne hrest).2
    have hsame : { next with fraction := 0 } = next := by rw [← hfraction]
    have hsplit : FormItem.literal ':' :: .second :: .fraction :: ending =
        [.literal ':', .second] ++ .fraction :: ending := rfl
    rw [hsplit, readItems?_append, hsecond, Option.bind_some]
    simp only [readItems?, readItem?, hnone, Option.map_some,
      Option.bind_eq_bind, Option.bind_some, hsame]
    exact hrest
  · rw [if_neg (hending.head?_ne h).1]
    exact h

/-- Forms with the same ending that read a text find the same fields. -/
theorem fields_unique {first second : TimeForm} {ending : List FormItem}
    (hfirst : first ∈ naiveForms) (hsecond : second ∈ naiveForms)
    (hending : IsEnding ending)
    (h : readItems? (first ++ ending) {} cs = some (f, []))
    (h' : readItems? (second ++ ending) {} cs = some (g, [])) : f = g := by
  obtain ⟨separator, hseparator, tail, htail, rfl⟩ :=
    exists_of_mem_naiveForms hfirst
  obtain ⟨separator', hseparator', tail', htail', rfl⟩ :=
    exists_of_mem_naiveForms hsecond
  rw [List.append_assoc] at h h'
  obtain ⟨dated, afterDate, hdate, h⟩ := readItems?_append_eq_some h
  rw [readItems?_append, hdate] at h'
  simp only [Option.bind_some] at h'
  obtain rfl := separator_unique hseparator hseparator' h h'
  have hsplit : ∀ tail : List FormItem,
      [separator, .hour] ++ (.literal ':' :: .minute :: tail) ++ ending =
        [separator, .hour, .literal ':', .minute] ++ (tail ++ ending) :=
          fun tail => rfl
  rw [hsplit] at h h'
  obtain ⟨timed, afterMinute, hminute, h⟩ := readItems?_append_eq_some h
  rw [readItems?_append, hminute] at h'
  simp only [Option.bind_some] at h'
  have hfraction : timed.fraction = 0 := by
    have hplain : ∀ separator ∈ separators,
        FormItem.fraction ∉ [separator, .hour, .literal ':', .minute] := by
          decide
    rw [readItems?_fraction_eq (hplain separator hseparator) hminute,
      readItems?_fraction_eq (by decide) hdate]
  have hread := readTail?_of_readItems? htail hending hfraction h
  rw [readTail?_of_readItems? htail' hending hfraction h'] at hread
  exact (Prod.mk.inj (Option.some.inj hread)).1.symm

end TimeForm

/-- A search whose hits agree finds a value if and only if some member gives
it. -/
theorem findSome?_eq_some_iff_of_agree {α β : Type} {g : α → Option β}
    {l : List α} (hagree : ∀ a ∈ l, ∀ b ∈ l, ∀ x y, g a = some x →
      g b = some y → x = y) {x : β} :
    l.findSome? g = some x ↔ ∃ a ∈ l, g a = some x := by
  constructor
  · intro h
    exact List.exists_of_findSome?_eq_some h
  · rintro ⟨a, ha, hx⟩
    cases hfound : l.findSome? g with
    | none =>
        rw [List.findSome?_eq_none_iff.1 hfound a ha] at hx
        contradiction
    | some y =>
        obtain ⟨b, hb, hy⟩ := List.exists_of_findSome?_eq_some hfound
        rw [hagree a ha b hb x y hx hy]

namespace FormGroup

open TimeForm

variable {group group' : FormGroup} {form form' : TimeForm} {cs : List Char}

/-- The groups in the order in which they are tried. -/
def order : List FormGroup :=
  [zoned, naive, date]

theorem mem_order (group : FormGroup) : group ∈ order := by
  cases group <;> decide

/-- The timestamp that a group makes of the fields of a text. -/
def moment? (group : FormGroup) (f : TimeFields) : Option Moment :=
  match group with
  | zoned => f.dateTime?.bind fun wall => Moment.ofWallClock? wall f.offset
  | naive | date => f.dateTime?.map Moment.naive

/-- What a form makes of a text as one of a group. -/
def accept? (group : FormGroup) (cs : List Char) (form : TimeForm) :
    Option Moment :=
  (read? form cs).bind group.moment?

/-- The forms that read a text are of one group, and find the same fields. -/
theorem fields_unique {f g : TimeFields} (hform : form ∈ group.forms)
    (hform' : form' ∈ group'.forms) (h : read? form cs = some f)
    (h' : read? form' cs = some g) : group = group' ∧ f = g := by
  obtain rfl : group = group' := by
    rw [← ofChars_eq hform h, ← ofChars_eq hform' h']
  refine ⟨rfl, ?_⟩
  cases group with
  | date =>
      obtain rfl := List.mem_singleton.1 hform
      obtain rfl := List.mem_singleton.1 hform'
      exact Option.some.inj (h.symm.trans h')
  | naive =>
      have hread := readItems?_of_read? h
      have hread' := readItems?_of_read? h'
      rw [← List.append_nil form] at hread
      rw [← List.append_nil form'] at hread'
      exact TimeForm.fields_unique hform hform' (Or.inl rfl) hread hread'
  | zoned =>
      obtain ⟨plain, hplain, rfl⟩ := exists_of_mem_zonedForms hform
      obtain ⟨plain', hplain', rfl⟩ := exists_of_mem_zonedForms hform'
      exact TimeForm.fields_unique hplain hplain' (Or.inr rfl)
        (readItems?_of_read? h)
        (readItems?_of_read? h')

/-- A text is accepted in one group only, as one timestamp. -/
theorem accept?_unique {m m' : Moment} (hform : form ∈ group.forms)
    (hform' : form' ∈ group'.forms) (h : group.accept? cs form = some m)
    (h' : group'.accept? cs form' = some m') :
    group = group' ∧ m = m' := by
  obtain ⟨f, hread, hm⟩ := Option.bind_eq_some_iff.1 h
  obtain ⟨g, hread', hm'⟩ := Option.bind_eq_some_iff.1 h'
  obtain ⟨rfl, rfl⟩ := fields_unique hform hform' hread hread'
  exact ⟨rfl, Option.some.inj (hm.symm.trans hm')⟩

/-- The forms of one group, in whatever order, find what one of them accepts. -/
theorem findSome?_accept?_iff {forms : List TimeForm}
    (hforms : forms.Perm group.forms) {m : Moment} :
    forms.findSome? (group.accept? cs) = some m ↔
      ∃ form ∈ group.forms, group.accept? cs form = some m := by
  rw [findSome?_eq_some_iff_of_agree fun a ha b hb x y hx hy =>
    (accept?_unique (hforms.mem_iff.1 ha) (hforms.mem_iff.1 hb) hx hy).2]
  exact exists_congr fun form => and_congr_left fun _ => hforms.mem_iff

end FormGroup

namespace Moment

open TimeForm FormGroup

/-- Reading a text with the groups in one order and the forms of each group in
another. -/
def ofTrimmedBy? (forms : FormGroup → List TimeForm) (groups : List FormGroup)
    (cs : List Char) : Option Moment :=
  match beforeZulu? cs with
  | some before =>
      (forms .zoned).findSome?
      (FormGroup.zoned.accept? (before ++ "+00:00".toList))
  | none => groups.findSome? fun group =>
      (forms group).findSome? (group.accept? cs)

def ofTextBy? (forms : FormGroup → List TimeForm) (groups : List FormGroup)
    (s : String) : Option Moment :=
  ofTrimmedBy? forms groups (Text.trimBlanks s.toList)

theorem ofTrimmedBy?_forms_order (cs : List Char) :
    ofTrimmedBy? FormGroup.forms order cs = ofTrimmed? cs := by
  unfold ofTrimmedBy? ofTrimmed?
  cases beforeZulu? cs with
  | some before => rfl
  | none =>
      have hzoned : FormGroup.zoned.accept? cs = zoned? cs := rfl
      have hnaive : FormGroup.naive.accept? cs = naive? cs := rfl
      have hdate : FormGroup.date.accept? cs = naive? cs := rfl
      simp only [order, List.findSome?_cons, List.findSome?_nil,
        FormGroup.forms, hzoned, hnaive, hdate]
      cases zonedForms.findSome? (zoned? cs) with
      | some m => rfl
      | none =>
          cases naiveForms.findSome? (naive? cs) with
          | some m => rfl
          | none => cases naive? cs TimeForm.date <;> rfl

section Order

variable {forms : FormGroup → List TimeForm} {groups : List FormGroup}
  {cs : List Char} {m : Moment}

theorem ofTrimmedBy?_eq_some_iff
    (hforms : ∀ group, (forms group).Perm group.forms)
    (hgroups : groups.Perm order) (hzulu : beforeZulu? cs = none) :
    ofTrimmedBy? forms groups cs = some m ↔
      ∃ group : FormGroup, ∃ form ∈ group.forms,
        group.accept? cs form = some m := by
  have hagree : ∀ a ∈ groups, ∀ b ∈ groups, ∀ x y,
      (forms a).findSome? (a.accept? cs) = some x →
        (forms b).findSome? (b.accept? cs) = some y →
        x = y := by
    intro a _ b _ x y hx hy
    obtain ⟨form, hform, hx⟩ := (findSome?_accept?_iff (hforms a)).1 hx
    obtain ⟨form', hform', hy⟩ := (findSome?_accept?_iff (hforms b)).1 hy
    exact (accept?_unique hform hform' hx hy).2
  unfold ofTrimmedBy?
  rw [hzulu]
  simp only
  rw [findSome?_eq_some_iff_of_agree hagree]
  constructor
  · rintro ⟨group, -, hfound⟩
    exact ⟨group, (findSome?_accept?_iff (hforms group)).1 hfound⟩
  · rintro ⟨group, hfound⟩
    exact ⟨group, hgroups.mem_iff.2 (mem_order group),
      (findSome?_accept?_iff (hforms group)).2 hfound⟩

/-- A text is read as what some form of some group accepts. -/
theorem ofTrimmed?_eq_some_iff (hzulu : beforeZulu? cs = none) :
    ofTrimmed? cs = some m ↔
      ∃ group : FormGroup, ∃ form ∈ group.forms,
        group.accept? cs form = some m := by
  rw [← ofTrimmedBy?_forms_order]
  exact ofTrimmedBy?_eq_some_iff (fun _ => List.Perm.refl _)
    (List.Perm.refl _) hzulu

theorem ofTrimmedBy?_eq (hforms : ∀ group, (forms group).Perm group.forms)
    (hgroups : groups.Perm order) (cs : List Char) :
    ofTrimmedBy? forms groups cs = ofTrimmed? cs := by
  apply Option.ext
  intro m
  cases hzulu : beforeZulu? cs with
  | some before =>
      rw [← ofTrimmedBy?_forms_order]
      unfold ofTrimmedBy?
      rw [hzulu]
      simp only
      rw [findSome?_accept?_iff (hforms .zoned),
        findSome?_accept?_iff (List.Perm.refl _)]
  | none =>
      rw [ofTrimmedBy?_eq_some_iff hforms hgroups hzulu,
        ofTrimmed?_eq_some_iff hzulu]

/-- A text that a form of a group reads is what the group makes of its
fields. -/
theorem ofTrimmed?_of_read? {group : FormGroup} {form : TimeForm}
    {f : TimeFields} (hzulu : beforeZulu? cs = none)
    (hform : form ∈ group.forms) (hread : read? form cs = some f) :
    ofTrimmed? cs = group.moment? f := by
  have haccept : group.accept? cs form = group.moment? f := by
    rw [accept?, hread, Option.bind_some]
  apply Option.ext
  intro m
  rw [ofTrimmed?_eq_some_iff hzulu, ← haccept]
  constructor
  · rintro ⟨group', form', hform', haccept'⟩
    obtain ⟨g, hread', -⟩ := Option.bind_eq_some_iff.1 haccept'
    obtain ⟨rfl, rfl⟩ := fields_unique hform hform' hread hread'
    rwa [accept?, hread, ← hread']
  · intro haccept
    exact ⟨group, form, hform, haccept⟩

end Order

/-- The order in which the forms are tried makes no difference: a text is
accepted in one group only and as one timestamp, whatever the form, so the
groups and the forms of each group may be tried in any order. -/
theorem ofText?_any_order :
    (∀ (cs : List Char) (group group' : FormGroup) (form form' : TimeForm)
      (m m' : Moment),
      form ∈ group.forms → form' ∈ group'.forms →
        group.accept? cs form = some m →
        group'.accept? cs form' = some m' → group = group' ∧ m = m') ∧
    ∀ (forms : FormGroup → List TimeForm) (groups : List FormGroup),
      (∀ group, (forms group).Perm group.forms) → groups.Perm order →
        ∀ s : String, ofTextBy? forms groups s = ofText? s :=
  ⟨fun _ _ _ _ _ _ _ hform hform' h h' => accept?_unique hform hform' h h',
    fun _ _ hforms hgroups s =>
      ofTrimmedBy?_eq hforms hgroups (Text.trimBlanks s.toList)⟩

theorem ofText?_reversed_order :
    (∀ m, FormGroup.naive.accept? "2024-01-15 10:30:45".toList
      (TimeForm.date ++ [.blanks, .hour, .literal ':', .minute, .literal ':',
        .second, .fraction]) =
        some m → m = .naive ⟨⟨2024, 1, 15⟩, ⟨10, 30, 45, 0⟩⟩) ∧
    ofTextBy? (fun group => group.forms.reverse) order.reverse
      " 2024-1-5 0:30:45.5 +09:00" =
      some (.zoned ⟨⟨2024, 1, 4⟩, ⟨15, 30, 45, 500000000⟩⟩ 32400) := by
  have hplain : FormGroup.naive.accept? "2024-01-15 10:30:45".toList
      (TimeForm.date ++ [.blanks, .hour, .literal ':', .minute, .literal ':',
        .second]) =
        some (.naive ⟨⟨2024, 1, 15⟩, ⟨10, 30, 45, 0⟩⟩) := by decide +kernel
  constructor
  · intro m hm
    exact (ofText?_any_order.1 _ .naive .naive _ _ _ _ (by decide)
      (by decide) hm hplain).2
  · rw [ofText?_any_order.2 _ _ (fun group => List.reverse_perm group.forms)
      (List.reverse_perm order)]
    decide +kernel

end Moment

end Stencil

/-
The Zulu designator.  A reader that stops inside a text reads the part in front
of that place in the same way, so a text that ends in the offset zero is a date
and time of its own with white space behind it, and no form without an offset
reads it.
-/
import Stencil.Proofs.Time.Offset

namespace Stencil

open Text

namespace TimeForm

section Cut

/-! What was left over may be cut off: the rest is read alone as it was read in
front of it. -/

variable {item : FormItem} {items : List FormItem} {f g : TimeFields}
  {cs rest tail : List Char}

theorem dropWhile_of_append {p : Char → Bool}
    (h : (cs ++ tail).dropWhile p = rest ++ tail) :
    cs.dropWhile p = rest := by
  rw [List.dropWhile_append] at h
  split at h
  next hempty =>
      have hlength := (List.dropWhile_suffix p (l := tail)).length_le
      rw [h, List.length_append] at hlength
      rw [List.isEmpty_iff.1 hempty,
        List.length_eq_zero_iff.1 (by omega : rest.length = 0)]
  next => exact List.append_cancel_right h

theorem readField?_of_append {n : Nat}
    (h : readField? (cs ++ tail) = some (n, rest ++ tail)) :
    readField? cs = some (n, rest) := by
  obtain ⟨blanks, ds, hsplit, hblanks, hfield, hstop, hvalue⟩ :=
    readField?_iff.1 h
  simp only [← List.append_assoc] at hsplit
  rw [List.append_cancel_right hsplit, List.append_assoc]
  exact readField?_iff.2
    ⟨blanks, ds, rfl, hblanks, hfield, hstop.imp_right stops_of_append, hvalue⟩

theorem readYear?_of_append {n : Int}
    (h : readYear? (cs ++ tail) = some (n, rest ++ tail)) :
    readYear? cs = some (n, rest) := by
  obtain ⟨blanks, text, hsplit, hblanks, hyear⟩ := readYear?_iff.1 h
  simp only [← List.append_assoc] at hsplit
  rw [List.append_cancel_right hsplit, List.append_assoc]
  exact readYear?_iff.2 ⟨blanks, text, rfl, hblanks, hyear.imp stops_of_append⟩

theorem readFraction?_of_append {n : Nat}
    (h : readFraction? (cs ++ tail) = some (n, rest ++ tail)) :
    readFraction? cs = some (n, rest) := by
  obtain ⟨text, hsplit, hfraction⟩ := readFraction?_iff.1 h
  rw [← List.append_assoc] at hsplit
  rw [List.append_cancel_right hsplit]
  exact readFraction?_iff.2
    ⟨text, rfl, hfraction.imp stops_of_append stops_of_append⟩

theorem ItemReads.of_append (h : ItemReads item f (cs ++ tail) g (rest ++ tail))
    (hoffset : item ≠ .offset) : ItemReads item f cs g rest := by
  cases item with
  | offset => contradiction
  | year =>
      obtain ⟨n, hread, hset⟩ := h
      exact ⟨n, readYear?_of_append hread, hset⟩
  | month | day | hour | minute | second =>
      obtain ⟨n, hread, hset⟩ := h
      exact ⟨n, readField?_of_append hread, hset⟩
  | fraction =>
      obtain ⟨n, hread, hset⟩ := h
      exact ⟨n, readFraction?_of_append hread, hset⟩
  | blanks =>
      obtain ⟨hdrop, hset⟩ := h
      exact ⟨dropWhile_of_append hdrop, hset⟩
  | literal c =>
      obtain ⟨hsplit, hset⟩ := h
      exact ⟨List.append_cancel_right hsplit, hset⟩

theorem readItems?_of_append (hoffset : .offset ∉ items)
    (h : readItems? items f (cs ++ tail) = some (g, rest ++ tail)) :
    readItems? items f cs = some (g, rest) := by
  induction items generalizing f cs with
  | nil =>
      obtain ⟨rfl, hsplit⟩ := Prod.mk.inj (Option.some.inj h)
      rw [List.append_cancel_right hsplit]
      rfl
  | cons item items ih =>
      rw [List.mem_cons, not_or] at hoffset
      obtain ⟨next, more, hitem, hitems⟩ := readItems?_cons_eq_some_iff.1 h
      obtain ⟨taken, rfl, -⟩ := readItems?_taken hitems
      rw [← List.append_assoc] at hitem hitems
      have hread := hitem.of_append (Ne.symm hoffset.1)
      exact readItems?_cons_eq_some_iff.2
        ⟨next, taken ++ rest, hread, ih hoffset.2 hitems⟩

end Cut

section LastSign

variable {form : TimeForm} {f g : TimeFields} {cs more front : List Char}

/-- A text is cut at its last sign in one way only. -/
theorem lastSign_unique {before after before' after' : List Char}
    {sign sign' : Char} (hsign : isOffsetSign sign = true)
    (hsign' : isOffsetSign sign' = true)
    (hafter : ∀ c ∈ after, isOffsetSign c = false)
    (hafter' : ∀ c ∈ after', isOffsetSign c = false)
    (h : before ++ sign :: after = before' ++ sign' :: after') :
    before = before' ∧ sign = sign' ∧ after = after' := by
  have hrun : ∀ cs : List Char, (∀ c ∈ cs, isOffsetSign c = false) →
      ∀ c ∈ cs.reverse, (!isOffsetSign c) = true := by
    intro cs hcs c hc
    rw [hcs c (List.mem_reverse.1 hc)]
    rfl
  have hreverse := congrArg List.reverse h
  simp only [List.reverse_append, List.reverse_cons, List.append_assoc,
    List.singleton_append]
    at hreverse
  obtain ⟨hback, hfront⟩ :=
    run_append_inj (hrun after hafter) (stops_cons.2 (by simp [hsign]))
      (hrun after' hafter') (stops_cons.2 (by simp [hsign'])) hreverse
  obtain ⟨hsame, hbefore⟩ := List.cons.inj hfront
  exact ⟨List.reverse_inj.1 hbefore, hsame, List.reverse_inj.1 hback⟩

/-- The last sign that a form without an offset reads is the one in front of the
day. -/
theorem exists_lastSign_of_plain (hform : form ∈ date :: naiveForms)
    (h : read? form cs = some f) :
    ∃ before after, cs = before ++ '-' :: after ∧ ∀ c ∈ after,
      isOffsetSign c = false := by
  have hshape : ∀ form ∈ date :: naiveForms,
      form = [.year, .literal '-', .month] ++ .literal '-' :: form.drop 4 ∧
        ∀ item ∈ form.drop 4, item.admits '+' = false ∧
          item.admits '-' = false ∧ item.admits '\u2212' = false := by decide
  obtain ⟨hsplit, hsigns⟩ := hshape form hform
  have hread := readItems?_of_read? h
  rw [hsplit] at hread
  obtain ⟨dated, afterMonth, hmonth, hday⟩ := readItems?_append_eq_some hread
  obtain ⟨before, rfl, -⟩ := readItems?_taken hmonth
  obtain ⟨next, after, ⟨rfl, -⟩, hafter⟩ := readItems?_cons_eq_some_iff.1 hday
  obtain ⟨taken, rfl, hnone⟩ := not_mem_of_readItems? hafter
  refine ⟨before, taken, by rw [List.append_nil], fun c hc =>
    Bool.not_eq_true _ ▸ fun hsign => ?_⟩
  rcases eq_of_isOffsetSign hsign with rfl | rfl | rfl
  · exact hnone '+' (fun item hitem => (hsigns item hitem).1) hc
  · exact hnone '-' (fun item hitem => (hsigns item hitem).2.1) hc
  · exact hnone '\u2212' (fun item hitem => (hsigns item hitem).2.2) hc

/-- The offset zero behind its sign. -/
def zeroMinutes : List Char := ['0', '0', ':', '0', '0']

theorem offsetText_zero : offsetText '+' 0 0 = '+' :: zeroMinutes := by decide

theorem isOffsetSign_zeroMinutes : ∀ c ∈ zeroMinutes, isOffsetSign c = false :=
  forall_mem_of_all (by decide)

/-- No form without an offset reads a text that ends in the offset zero: its
last sign would be a minus sign. -/
theorem read?_plain_zeroOffset (hform : form ∈ date :: naiveForms)
    (cs : List Char) :
    read? form (cs ++ '+' :: zeroMinutes) = none := by
  cases hread : read? form (cs ++ '+' :: zeroMinutes) with
  | none => rfl
  | some f =>
      obtain ⟨before, after, hsplit, hafter⟩ :=
        exists_lastSign_of_plain hform hread
      obtain ⟨-, hsign, -⟩ :=
        lastSign_unique (by decide) (by decide) isOffsetSign_zeroMinutes hafter
          hsplit
      exact absurd hsign (by decide)

/-- The offset item takes the offset zero at the end of a text whole, with white
space in front of it. -/
theorem readItems?_zeroOffset (h : readItems? [.offset] f more = some (g, []))
    (hsplit : cs ++ '+' :: zeroMinutes = front ++ more) :
    ∃ after, cs = front ++ after ∧ more = after ++ '+' :: zeroMinutes ∧
      (∀ c ∈ after, isBlank c = true) ∧ g = { f with offset := 0 } := by
  obtain ⟨next, rest, ⟨offset, hread, rfl⟩, hend⟩ :=
    readItems?_cons_eq_some_iff.1 h
  obtain ⟨rfl, rfl⟩ := Prod.mk.inj (Option.some.inj hend)
  obtain ⟨before, sign, after, hmore, hbefore, hsign, hafter⟩ :=
    readOffset?_taken hread
  have hplain : ∀ c ∈ after, isOffsetSign c = false := by
    intro c hc
    refine Bool.not_eq_true _ ▸ fun hsign => ?_
    have hclass := hafter c hc
    rcases eq_of_isOffsetSign hsign with rfl | rfl | rfl
    all_goals exact absurd hclass (by decide)
  rw [List.append_nil] at hmore
  rw [hmore, ← List.append_assoc] at hsplit
  obtain ⟨rfl, rfl, rfl⟩ :=
    lastSign_unique (by decide) hsign isOffsetSign_zeroMinutes hplain hsplit
  have hzero : readOffset? ('+' :: zeroMinutes) = some (0, []) := by decide
  rw [hmore, readOffset?_blanks_append hbefore, hzero] at hread
  obtain ⟨rfl, -⟩ := Prod.mk.inj (Option.some.inj hread)
  exact ⟨before, rfl, hmore, hbefore, rfl⟩

end LastSign

section EndOfClock

variable {form : TimeForm} {f : TimeFields} {cs rest : List Char} {n : Nat}

open Moment

/-- The last field of a clock ends in a digit, and so does a fraction. -/
theorem endsInDigit_of_readField? (h : readField? cs = some (n, rest))
    (hrest : rest = [] ∨ EndsInDigit rest) : EndsInDigit cs := by
  obtain ⟨blanks, ds, rfl, -, hfield, -⟩ := readField?_iff.1 h
  apply EndsInDigit.append
  rcases hrest with rfl | hrest
  · rw [List.append_nil]
    exact endsInDigit_of_digits hfield.nonempty hfield.digits
  · exact hrest.append ds

theorem endsInDigit_of_readFraction? (h : readFraction? cs = some (n, [])) :
    cs = [] ∨ EndsInDigit cs := by
  obtain ⟨text, rfl, hfraction⟩ := readFraction?_iff.1 h
  rw [List.append_nil]
  cases hfraction with
  | point hne hdigits =>
      exact Or.inr ((endsInDigit_of_digits hne hdigits).cons '.')
  | none => exact Or.inl rfl

theorem endsInDigit_of_naive (hform : form ∈ naiveForms)
    (h : read? form cs = some f) :
    EndsInDigit cs := by
  obtain ⟨separator, -, tail, htail, rfl⟩ := exists_of_mem_naiveForms hform
  have hread := readItems?_of_read? h
  rw [← List.append_assoc] at hread
  obtain ⟨timed, afterHour, hhour, hclock⟩ := readItems?_append_eq_some hread
  obtain ⟨before, hbefore, -⟩ := readItems?_taken hhour
  obtain ⟨timed', afterColon, ⟨rfl, -⟩, hminute⟩ :=
    readItems?_cons_eq_some_iff.1 hclock
  obtain ⟨next, afterMinute, ⟨minute, hfield, -⟩, htailRead⟩ :=
    readItems?_cons_eq_some_iff.1 hminute
  rw [hbefore]
  apply EndsInDigit.append
  apply EndsInDigit.cons
  apply endsInDigit_of_readField? hfield
  simp only [clockTails, List.mem_cons, List.not_mem_nil, or_false] at htail
  rcases htail with rfl | rfl | rfl
  · obtain ⟨next', fromSecond, ⟨rfl, -⟩, hsecond⟩ :=
      readItems?_cons_eq_some_iff.1 htailRead
    obtain ⟨_, afterSecond, ⟨second, hfield', -⟩, hlast⟩ :=
      readItems?_cons_eq_some_iff.1 hsecond
    obtain ⟨_, rest, ⟨fraction, hfraction, -⟩, hend⟩ :=
      readItems?_cons_eq_some_iff.1 hlast
    obtain ⟨-, rfl⟩ := Prod.mk.inj (Option.some.inj hend)
    have hends := endsInDigit_of_readFraction? hfraction
    exact Or.inr ((endsInDigit_of_readField? hfield' hends).cons ':')
  · obtain ⟨next', fromSecond, ⟨rfl, -⟩, hsecond⟩ :=
      readItems?_cons_eq_some_iff.1 htailRead
    obtain ⟨_, rest, ⟨second, hfield', -⟩, hend⟩ :=
      readItems?_cons_eq_some_iff.1 hsecond
    obtain ⟨-, rfl⟩ := Prod.mk.inj (Option.some.inj hend)
    exact Or.inr ((endsInDigit_of_readField? hfield' (Or.inl rfl)).cons ':')
  · obtain ⟨-, rfl⟩ := Prod.mk.inj (Option.some.inj htailRead)
    exact Or.inl rfl

end EndOfClock

end TimeForm

namespace Moment

open TimeForm

variable {cs : List Char} {m : Moment}

theorem endsInDigit_zeroMinutes : EndsInDigit zeroMinutes :=
  ⟨['0', '0', ':', '0'], '0', rfl, by decide⟩

/-- Only the forms with an offset can read a text that ends in the offset
zero. -/
theorem ofTrimmed?_zeroOffset (cs : List Char) :
    ofTrimmed? (cs ++ '+' :: zeroMinutes) =
      zonedForms.findSome? (zoned? (cs ++ '+' :: zeroMinutes)) := by
  have hzulu : beforeZulu? (cs ++ '+' :: zeroMinutes) = none :=
    beforeZulu?_of_endsInDigit ((endsInDigit_zeroMinutes.cons '+').append cs)
  have hplain : ∀ form ∈ TimeForm.date :: naiveForms,
      naive? (cs ++ '+' :: zeroMinutes) form = none := by
    intro form hform
    rw [naive?, read?_plain_zeroOffset hform, Option.bind_none]
  have hnaive : naiveForms.findSome? (naive? (cs ++ '+' :: zeroMinutes)) =
      none :=
    List.findSome?_eq_none_iff.2 fun form hform =>
      hplain form (List.mem_cons_of_mem _ hform)
  rw [ofTrimmed?, hzulu]
  simp only [hnaive, hplain TimeForm.date List.mem_cons_self, Option.or_none]

theorem beforeZulu?_concat {designator : Char}
    (h : designator = 'Z' ∨ designator = 'z') (cs : List Char) :
    beforeZulu? (cs ++ [designator]) = some cs := by
  unfold beforeZulu?
  simp [h]

/-- A Zulu designator is read as the offset zero in its place. -/
theorem ofChars?_zulu {designator : Char}
    (h : designator = 'Z' ∨ designator = 'z') (cs : List Char) :
    ofChars? (cs ++ [designator]) = ofChars? (cs ++ '+' :: zeroMinutes) := by
  have hstops : Stops isBlank [designator] := by
    rw [stops_cons]
    rcases h with rfl | rfl <;> decide
  have hletter : trimBlanks (cs ++ [designator]) =
      cs.dropWhile isBlank ++ [designator] :=
    trimWhere_append cs (by simp) hstops hstops
  have hoffset : trimBlanks (cs ++ '+' :: zeroMinutes) =
      cs.dropWhile isBlank ++ '+' :: zeroMinutes :=
    trimWhere_append cs (by simp) (stops_cons.2 (by decide))
      (stops_cons.2 (by decide))
  have htext : "+00:00".toList = '+' :: zeroMinutes := rfl
  rw [ofChars?, ofChars?, hletter, hoffset, ofTrimmed?_zeroOffset, ofTrimmed?,
    beforeZulu?_concat h]
  simp only [htext]

theorem ofWallClock?_zero {wall : DateTime} (hwall : wall.Proper) :
    ofWallClock? wall 0 = some (.zoned wall 0) := by
  have hseconds := Clock.seconds_lt hwall.clock
  have hback := Clock.ofSeconds_seconds hwall.clock
  have hsame : wall.shift (-0) = wall := by
    unfold DateTime.shift
    simp only
    rw [if_neg (by omega), if_neg (by omega),
      show ((wall.clock.seconds : Int) + -0).toNat = wall.clock.seconds by
        omega, hback]
  rw [ofWallClock?_eq_some_iff, hsame]
  exact ⟨hwall.date, rfl⟩

/-- A text that is read with the offset zero behind it is a date and time of its
own. -/
theorem exists_naive_of_zeroOffset
    (h : ofChars? (cs ++ '+' :: zeroMinutes) = some m) :
    ∃ wall, ofChars? cs = some (.naive wall) ∧ ':' ∈ cs ∧
      m = .zoned wall 0 := by
  have htrim : trimBlanks (cs ++ '+' :: zeroMinutes) =
      cs.dropWhile isBlank ++ '+' :: zeroMinutes :=
    trimWhere_append cs (by simp) (stops_cons.2 (by decide))
      (stops_cons.2 (by decide))
  rw [ofChars?, htrim, ofTrimmed?_zeroOffset] at h
  obtain ⟨form, hform, haccept⟩ := List.exists_of_findSome?_eq_some h
  obtain ⟨plain, hplain, rfl⟩ := exists_of_mem_zonedForms hform
  obtain ⟨f, hread, hmoment⟩ := Option.bind_eq_some_iff.1 haccept
  obtain ⟨wall, htime, hwall⟩ := Option.bind_eq_some_iff.1 hmoment
  obtain ⟨next, more, hfront, hoffset⟩ :=
    readItems?_append_eq_some (readItems?_of_read? hread)
  obtain ⟨front, hsplit, -⟩ := readItems?_taken hfront
  obtain ⟨after, hdrop, -, hafter, rfl⟩ := readItems?_zeroOffset hoffset hsplit
  -- without the offset the form reads the same fields
  have hplainItems : ∀ form ∈ naiveForms, .offset ∉ form := by decide
  have halone : read? plain front = some next := by
    have hcut : readItems? plain {} (front ++ more) =
        some (next, [] ++ more) := by
      rw [← hsplit]
      exact hfront
    rw [read?, readItems?_of_append (hplainItems plain hplain) hcut]
  have hends := endsInDigit_of_naive hplain halone
  have htrimAlone : trimBlanks cs = front := by
    have hstops : Stops isBlank (front ++ after) :=
      hdrop ▸ stops_dropWhile isBlank cs
    have hlast : Stops isBlank front.reverse := by
      obtain ⟨before, c, rfl, hc⟩ := hends
      rw [List.reverse_append]
      exact stops_cons.2 (isBlank_eq_false_of_isDigit hc)
    rw [trimBlanks, ← List.takeWhile_append_dropWhile (p := isBlank) (l := cs),
      hdrop]
    exact trimWhere_pad (fun c hc => List.mem_takeWhile_imp hc) hafter
      (stops_of_append hstops) hlast
  have hwallTime : next.dateTime? = some wall := htime
  refine ⟨wall, ?_, ?_, ?_⟩
  · have hgroup : plain ∈ FormGroup.naive.forms := hplain
    rw [ofChars?, htrimAlone,
      ofTrimmed?_of_read? (beforeZulu?_of_endsInDigit hends) hgroup halone,
      FormGroup.moment?, hwallTime, Option.map_some]
  · obtain ⟨before, colonTail, hcolon, -⟩ :=
      exists_colon_of_naive hplain (readItems?_of_read? halone)
    have hmem : ':' ∈ cs.dropWhile isBlank := by
      rw [hdrop, hcolon]
      simp
    exact (List.dropWhile_suffix isBlank).subset hmem
  · have hproper := proper_of_dateTime? (bounded_of_read? halone) hwallTime
    rw [ofWallClock?_zero hproper] at hwall
    exact (Option.some.inj hwall).symm

/-- A date and time is read with the offset zero behind it, and keeps its wall
clock. -/
theorem ofChars?_zeroOffset {wall : DateTime}
    (h : ofChars? cs = some (.naive wall)) (hcolon : ':' ∈ cs) :
    ofChars? (cs ++ '+' :: zeroMinutes) = some (.zoned wall 0) := by
  have hread : ofText? (String.ofList cs) = some (.naive wall) := by
    rw [ofText?, String.toList_ofList]
    exact h
  have hproper : wall.Proper := proper_of_ofChars? h
  have hplus : isOffsetSign '+' = true := by decide
  have hseconds : offsetSeconds '+' 0 0 = 0 := by decide
  have hzero := ofText?_offset_eq hread (by rwa [String.toList_ofList]) hplus
    (Nat.zero_le 23)
    (Nat.zero_le 59)
  rwa [ofText?, String.toList_append, String.toList_ofList,
    String.toList_ofList, offsetText_zero, hseconds,
    ofWallClock?_zero hproper] at hzero

/-- A Zulu designator is the offset zero and nothing else.  Whatever the text,
`Z`, `z` and `+00:00` behind it are read alike: as a timestamp with the offset
zero if the text is a date and time of its own, which is then the wall clock,
and not at all otherwise. -/
theorem ofText?_zulu (s : String) :
    ofText? (s ++ "Z") = ofText? (s ++ "+00:00") ∧
      ofText? (s ++ "z") = ofText? (s ++ "+00:00") ∧
      ∀ m, ofText? (s ++ "+00:00") = some m ↔
        ∃ wall, ofText? s = some (.naive wall) ∧ ':' ∈ s.toList ∧
          m = .zoned wall 0 := by
  have htext : (s ++ "+00:00").toList = s.toList ++ '+' :: zeroMinutes :=
    String.toList_append
  refine ⟨?_, ?_, fun m => ⟨fun h => ?_, ?_⟩⟩
  · rw [ofText?, ofText?, htext, String.toList_append]
    exact ofChars?_zulu (Or.inl rfl) s.toList
  · rw [ofText?, ofText?, htext, String.toList_append]
    exact ofChars?_zulu (Or.inr rfl) s.toList
  · rw [ofText?, htext] at h
    exact exists_naive_of_zeroOffset h
  · rintro ⟨wall, hread, hcolon, rfl⟩
    rw [ofText?, htext]
    exact ofChars?_zeroOffset hread hcolon

example : ofText? "-44-3-15 23:29:60.5 z" =
    some (.zoned ⟨⟨-44, 3, 15⟩, ⟨23, 29, 59, 1500000000⟩⟩ 0) := by
  decide +kernel
example :
    ofText? "2024-01-15Z" = none ∧ ofText? "2024-01-15T10:30ZZ" = none := by
  decide +kernel

end Moment

end Stencil

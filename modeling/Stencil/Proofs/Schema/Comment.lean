/-
A declaration as a comment.  The reader of declarations takes a declaration up
to its hyphen; the template syntax takes a comment up to its first end, which
may stand earlier.  What is left of the declaration then is text of the
template.
-/
import Stencil.Proofs.Schema.Extraction
import Stencil.Proofs.Template.Marks
import Stencil.Proofs.Text.Pairs

namespace Stencil

open Text Declaration Template

namespace Spelling

variable (s : Spelling)

/-- The declaration behind its opening brace and number sign, cut at the first
end of a comment. -/
def cut : List Char × List Char :=
  (splitAtFirst? ['#', '}'] (s.chars.drop 2)).getD ([], [])

/-- What the template syntax takes for the comment. -/
def comment : List Char :=
  s.cut.1

/-- What stands behind that comment. -/
def leak : List Char :=
  s.cut.2

theorem drop_chars :
    s.chars.drop 2 = ('-' :: (s.inner ++ ['-'])) ++ '#' :: '}' :: [] := by
  simp [chars, opening, closing]

theorem splitAtFirst?_chars :
    splitAtFirst? ['#', '}'] (s.chars.drop 2) = some (s.comment, s.leak) := by
  obtain ⟨found, hfound⟩ :=
    exists_splitAtFirst?_pair '#' '}' ('-' :: (s.inner ++ ['-'])) []
  rw [← drop_chars] at hfound
  simp [comment, leak, cut, hfound]

theorem drop_chars_eq_cut :
    s.chars.drop 2 = s.comment ++ '#' :: '}' :: s.leak :=
  (of_splitAtFirst?_pair s.splitAtFirst?_chars).1

theorem comment_admissible : (Mark.comment s.comment).Admissible :=
  (of_splitAtFirst?_pair s.splitAtFirst?_chars).2

/-- A declaration is a comment with what leaks from it. -/
theorem chars_eq_comment :
    s.chars = (Mark.comment s.comment).chars ++ s.leak := by
  have htext : s.chars = '{' :: '#' :: s.chars.drop 2 := rfl
  rw [htext, drop_chars_eq_cut]
  simp [Mark.chars]

theorem inner_eq_cut :
    '-' :: (s.inner ++ ['-', '#', '}']) =
      s.comment ++ '#' :: '}' :: s.leak := by
  rw [← drop_chars_eq_cut]
  rfl

/-- The comment begins with the hyphen of the declaration, which does not end
it. -/
theorem exists_comment : ∃ c cs, s.comment = '-' :: c :: cs := by
  have hcut := s.inner_eq_cut
  have hhead := s.inner_head_ne ['-', '#', '}']
  match hcomment : s.comment with
  | [] => simp [hcomment] at hcut
  | [c] =>
      rw [hcomment, List.singleton_append, List.cons.injEq] at hcut
      rw [hcut.2] at hhead
      exact absurd rfl hhead
  | c :: d :: cs =>
      rw [hcomment, List.cons_append, List.cons.injEq] at hcut
      exact ⟨d, cs, by rw [← hcut.1]⟩

theorem trimsBefore_comment : (Mark.comment s.comment).trimsBefore = true := by
  obtain ⟨c, cs, hcomment⟩ := s.exists_comment
  simp [Mark.trimsBefore, hcomment]

/-- The last hyphen of a declaration stands in front of its last two
characters. -/
theorem leak_eq_nil_of_getLast? (h : s.comment.getLast? = some '-') :
    s.leak = [] := by
  obtain ⟨c, cs, hcomment⟩ := s.exists_comment
  have hcut := s.inner_eq_cut
  rw [hcomment, List.getLast?_cons_cons] at h
  rw [hcomment, List.cons_append, List.cons.injEq] at hcut
  rcases List.append_eq_append_iff.1 hcut.2 with ⟨x, hx, hrest⟩ | ⟨x, hx, -⟩
  · rcases x with _ | ⟨a, x⟩
    · simp at hrest
    · have hlength := congrArg List.length hrest
      simp only [List.cons_append, List.length_cons, List.length_append,
        List.length_nil] at hlength
      exact List.length_eq_zero_iff.1 (by omega)
  · have hmem : '-' ∈ s.inner :=
      hx ▸ List.mem_append_left x (List.mem_of_getLast? h)
    exact absurd hmem s.hyphen_not_mem_inner

theorem comment_of_leak_eq_nil (h : s.leak = []) :
    s.comment = '-' :: (s.inner ++ ['-']) := by
  have hcut := s.inner_eq_cut
  have hend : '-' :: (s.inner ++ ['-', '#', '}']) =
      '-' :: (s.inner ++ ['-']) ++ ['#', '}'] := by
    simp
  rw [h, hend] at hcut
  exact (List.append_cancel_right hcut).symm

theorem trimsAfter_comment :
    (Mark.comment s.comment).trimsAfter = s.leak.isEmpty := by
  rw [Mark.trimsAfter, Bool.eq_iff_iff, beq_iff_eq, List.isEmpty_iff]
  refine ⟨s.leak_eq_nil_of_getLast?, fun hleak => ?_⟩
  rw [s.comment_of_leak_eq_nil hleak, ← List.cons_append, List.getLast?_concat]

/-- What leaks ends as the declaration does. -/
theorem getLast?_leak (h : s.leak ≠ []) : s.leak.getLast? = some '}' := by
  have hcut := congrArg List.getLast? s.chars_eq_comment
  have hchars : s.chars.getLast? = some '}' := by
    simp [chars, closing]
  rw [hchars, List.getLast?_append, List.getLast?_eq_some_getLast h,
    Option.some_or] at hcut
  rw [List.getLast?_eq_some_getLast h, ← hcut]

/-- Only the text after the colon can hold a number sign. -/
theorem pair_infix_inner_iff :
    ['#', '}'] <:+: '-' :: (s.inner ++ ['-']) ↔ ['#', '}'] <:+: s.body := by
  have htext : '-' :: s.inner =
      ('-' :: (s.gap ++ (keyword ++ (s.space ++ (s.name ++ [':']))))) ++
        s.body := by
    simp [inner]
  rw [← List.cons_append, htext]
  constructor
  · intro h
    refine pair_infix_of_append ?_ (pair_infix_of_concat (by decide) h)
    have hgap : '#' ∉ s.gap := not_mem_of_class s.gap_blank (by decide)
    have hspace : '#' ∉ s.space := not_mem_of_class s.space_blank (by decide)
    have hname : '#' ∉ s.name := not_mem_of_class s.name_word (by decide)
    simp [hgap, hspace, hname, keyword]
  · intro h
    exact (h.trans (List.suffix_append _ _).isInfix).trans
      (List.prefix_append _ _).isInfix

/-- Something leaks exactly if the text after the colon holds the end of a
comment. -/
theorem leak_eq_nil_iff : s.leak = [] ↔ ¬ ['#', '}'] <:+: s.body := by
  rw [← pair_infix_inner_iff]
  constructor
  · intro hleak
    rw [← s.comment_of_leak_eq_nil hleak]
    exact s.comment_admissible
  · intro hpair
    have hcut := s.splitAtFirst?_chars
    rw [drop_chars, splitAtFirst?_pair (by decide) hpair] at hcut
    exact (congrArg Prod.snd (Option.some.inj hcut)).symm

end Spelling

end Stencil

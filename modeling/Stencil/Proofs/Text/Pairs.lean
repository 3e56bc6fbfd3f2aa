/-
A character, or two neighbouring ones, in a text.  They are found at the first
place where they stand, so a text is cut there in one way.
-/
import Stencil.Proofs.Text.Runs

namespace Stencil.Text

variable {a b : Char} {before after cs : List Char}

/-- A text is cut at the first of the characters that separate. -/
theorem of_splitAtFirst?_singleton {sep : Char} {cs before after : List Char}
    (h : splitAtFirst? [sep] cs = some (before, after)) :
    sep ∉ before ∧ cs = before ++ sep :: after := by
  induction cs generalizing before with
  | nil => cases h
  | cons c cs ih =>
      rw [splitAtFirst?] at h
      by_cases heq : sep = c
      · subst heq
        have hdrop : [sep].isPrefixOf? (sep :: cs) = some cs :=
          isPrefixOf?_append [sep] cs
        rw [hdrop] at h
        cases h
        exact ⟨List.not_mem_nil, rfl⟩
      · have hdrop : [sep].isPrefixOf? (c :: cs) = none := by
          simp [List.isPrefixOf?, heq]
        rw [hdrop] at h
        obtain ⟨⟨earlier, rest⟩, hcut, hpair⟩ := Option.map_eq_some_iff.1 h
        cases hpair
        obtain ⟨hnot, rfl⟩ := ih hcut
        refine ⟨?_, rfl⟩
        rw [List.mem_cons, not_or]
        exact ⟨heq, hnot⟩

theorem splitAtFirst?_singleton {sep : Char} {before : List Char}
    (h : sep ∉ before) (after : List Char) :
    splitAtFirst? [sep] (before ++ sep :: after) = some (before, after) := by
  induction before with
  | nil => simp [splitAtFirst?, List.isPrefixOf?]
  | cons c cs ih =>
      rw [List.mem_cons, not_or] at h
      simp [splitAtFirst?, List.isPrefixOf?, h.1, ih h.2]

theorem splitAtFirst?_singleton_eq_none {sep : Char} {cs : List Char}
    (h : sep ∉ cs) :
    splitAtFirst? [sep] cs = none := by
  induction cs with
  | nil => rfl
  | cons c cs ih =>
      rw [List.mem_cons, not_or] at h
      simp [splitAtFirst?, List.isPrefixOf?, h.1, ih h.2]

theorem not_pair_of_cons {c : Char} (h : ¬ [a, b] <:+: c :: cs) :
    ¬ [a, b] <:+: cs := by
  intro hpair
  apply h
  exact hpair.trans (List.suffix_cons c cs).isInfix

/-- A pair that does not stand in a text is found behind it. -/
theorem splitAtFirst?_pair (hne : a ≠ b) (h : ¬ [a, b] <:+: before) :
    splitAtFirst? [a, b] (before ++ a :: b :: after) =
      some (before, after) := by
  induction before with
  | nil => simp [splitAtFirst?, List.isPrefixOf?]
  | cons c cs ih =>
      have hhere : [a, b].isPrefixOf? (c :: (cs ++ a :: b :: after)) =
          none := by
        by_cases hc : a = c
        · cases cs with
          | nil => simp [List.isPrefixOf?, hc, Ne.symm (hc ▸ hne)]
          | cons d ds =>
              have hd : b ≠ d := by
                rintro rfl
                exact h ⟨[], ds, by simp [hc]⟩
              simp [List.isPrefixOf?, hc, hd]
        · simp [List.isPrefixOf?, hc]
      rw [List.cons_append, splitAtFirst?, hhere, ih (not_pair_of_cons h)]
      rfl

/-- What is found is a pair that does not stand earlier. -/
theorem of_splitAtFirst?_pair
    (h : splitAtFirst? [a, b] cs = some (before, after)) :
    cs = before ++ a :: b :: after ∧ ¬ [a, b] <:+: before := by
  induction cs generalizing before with
  | nil => simp [splitAtFirst?, List.isPrefixOf?] at h
  | cons c cs ih =>
      rw [splitAtFirst?] at h
      split at h
      next rest hhere =>
          obtain ⟨rfl, rfl⟩ := Prod.mk.inj (Option.some.inj h)
          have happend := (List.isPrefixOf?_eq_some_iff_append_eq.1 hhere).symm
          exact ⟨by rw [happend]; rfl, by simp⟩
      next hhere =>
          obtain ⟨⟨inner, rest⟩, htail, heq⟩ := Option.map_eq_some_iff.1 h
          obtain ⟨rfl, rfl⟩ := Prod.mk.inj heq
          obtain ⟨rfl, hinner⟩ := ih htail
          refine ⟨rfl, fun hpair => ?_⟩
          rcases List.infix_cons_iff.1 hpair with hhead | hpair
          · obtain ⟨tail, htail⟩ := hhead
            have hdrop : c :: (inner ++ a :: b :: rest) =
                [a, b] ++ (tail ++ a :: b :: rest) := by
              rw [← List.append_assoc, htail, List.cons_append]
            rw [hdrop, isPrefixOf?_append] at hhere
            cases hhere
          · exact hinner hpair

/-- A pair that stands somewhere is found. -/
theorem exists_splitAtFirst?_pair (a b : Char) (before after : List Char) :
    ∃ found, splitAtFirst? [a, b] (before ++ a :: b :: after) = some found := by
  induction before with
  | nil => exact ⟨([], after), by simp [splitAtFirst?, List.isPrefixOf?]⟩
  | cons c cs ih =>
      obtain ⟨found, hfound⟩ := ih
      rw [List.cons_append, splitAtFirst?, hfound]
      split
      next rest _ => exact ⟨([], rest), rfl⟩
      next => exact ⟨(c :: found.1, found.2), rfl⟩

/-- A pair stands behind a text without its first character. -/
theorem pair_infix_of_append (ha : a ∉ before)
    (h : [a, b] <:+: before ++ after) :
    [a, b] <:+: after := by
  induction before with
  | nil => exact h
  | cons c cs ih =>
      rw [List.mem_cons, not_or] at ha
      rcases List.infix_cons_iff.1 h with hhead | hpair
      · exact absurd (List.cons_prefix_cons.1 hhead).1 ha.1
      · exact ih ha.2 hpair

/-- A pair stands in front of a character that it does not end in. -/
theorem pair_infix_of_concat {c : Char} (hb : b ≠ c)
    (h : [a, b] <:+: before ++ [c]) :
    [a, b] <:+: before := by
  rcases List.infix_concat_iff.1 h with hend | hpair
  · obtain ⟨left, heq⟩ := hend
    have hlast := congrArg List.getLast? heq
    simp only [List.getLast?_append, List.getLast?_cons_cons,
      List.getLast?_singleton, Option.some_or, Option.some.injEq] at hlast
    exact absurd hlast hb
  · exact hpair

end Stencil.Text

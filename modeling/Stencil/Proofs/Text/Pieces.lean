/-
Padding and separators.  Trimming undoes padding, and the pieces between
separators hold the rest of a text.
-/
import Stencil.Proofs.Text.Runs

namespace Stencil.Text

variable {p : Char → Bool} {sep : Char} {before core after : List Char}

/-- Trimming takes off what was put around a text that needs no trimming. -/
theorem trimWhere_pad (hbefore : ∀ c ∈ before, p c = true)
    (hafter : ∀ c ∈ after, p c = true) (hhead : Stops p core)
    (hlast : Stops p core.reverse) :
    trimWhere p (before ++ (core ++ after)) = core := by
  have hdrop : (before ++ (core ++ after)).dropWhile p =
      (core ++ after).dropWhile p :=
    List.dropWhile_append_of_pos hbefore
  rw [trimWhere, hdrop]
  cases core with
  | nil =>
      rw [List.nil_append, List.dropWhile_eq_nil_iff.2 hafter]
      rfl
  | cons c cs =>
      have hstops : Stops p (c :: cs ++ after) :=
        stops_cons.2 (stops_cons.1 hhead)
      have hreverse : ∀ d ∈ after.reverse, p d = true := fun d hd =>
        hafter d (List.mem_reverse.1 hd)
      rw [dropWhile_eq_self_of_stops hstops, List.reverse_append,
        dropWhile_run hreverse hlast, List.reverse_reverse]

theorem stops_of_all {cs : List Char} (h : ∀ c ∈ cs, p c = false) :
    Stops p cs :=
  fun c hc => h c (List.mem_of_mem_head? hc)

/-- Nothing is trimmed from a text with other characters at both ends. -/
theorem trimWhere_eq_self (hhead : Stops p core)
    (hlast : Stops p core.reverse) :
    trimWhere p core = core := by
  rw [trimWhere, dropWhile_eq_self_of_stops hhead,
    dropWhile_eq_self_of_stops hlast, List.reverse_reverse]

/-- Trimming leaves an end alone that needs no trimming. -/
theorem trimWhere_append {tail : List Char} (cs : List Char) (hne : tail ≠ [])
    (hhead : Stops p tail) (hlast : Stops p tail.reverse) :
    trimWhere p (cs ++ tail) = cs.dropWhile p ++ tail := by
  have hstops : Stops p (cs.dropWhile p ++ tail).reverse := by
    rw [List.reverse_append]
    exact stops_append_of_ne_nil (List.reverse_ne_nil_iff.2 hne) hlast _
  rw [trimWhere, dropWhile_append_of_stops cs hhead,
    dropWhile_eq_self_of_stops hstops, List.reverse_reverse]

/-- Trimming takes off the characters at both ends and nothing else. -/
theorem exists_trimWhere (p : Char → Bool) (cs : List Char) :
    ∃ before after, cs = before ++ (trimWhere p cs ++ after) ∧
      (∀ c ∈ before, p c = true) ∧
      (∀ c ∈ after, p c = true) ∧ Stops p (trimWhere p cs) := by
  have hmiddle : cs.dropWhile p =
      trimWhere p cs ++ ((cs.dropWhile p).reverse.takeWhile p).reverse := by
    rw [trimWhere, ← List.reverse_append, List.takeWhile_append_dropWhile,
      List.reverse_reverse]
  refine ⟨cs.takeWhile p, ((cs.dropWhile p).reverse.takeWhile p).reverse, ?_,
    ?_, ?_, ?_⟩
  · rw [← hmiddle, List.takeWhile_append_dropWhile]
  · exact fun c hc => List.mem_takeWhile_imp hc
  · exact fun c hc => List.mem_takeWhile_imp (List.mem_reverse.1 hc)
  · intro c hc
    refine stops_dropWhile p cs c ?_
    rw [hmiddle, List.head?_append, Option.mem_def.1 hc]
    rfl

theorem mem_of_mem_trimWhere {cs : List Char} {c : Char}
    (hc : c ∈ trimWhere p cs) : c ∈ cs := by
  obtain ⟨before, after, hcs, -⟩ := exists_trimWhere p cs
  rw [hcs]
  exact List.mem_append_right before (List.mem_append_left after hc)

theorem stops_reverse_trimWhere (p : Char → Bool) (cs : List Char) :
    Stops p (trimWhere p cs).reverse := by
  rw [trimWhere, List.reverse_reverse]
  exact stops_dropWhile p _

/-- Other characters are not trimmed. -/
theorem mem_trimWhere {cs : List Char} {c : Char} (hc : c ∈ cs)
    (hp : p c = false) :
    c ∈ trimWhere p cs := by
  obtain ⟨before, after, hcs, hbefore, hafter, -⟩ := exists_trimWhere p cs
  rw [hcs, List.mem_append, List.mem_append] at hc
  rcases hc with hc | hc | hc
  · exact absurd hc (not_mem_of_class hbefore hp)
  · exact hc
  · exact absurd hc (not_mem_of_class hafter hp)

/-- Padding around a text makes no difference when it is trimmed. -/
theorem trimWhere_padded (hbefore : ∀ c ∈ before, p c = true)
    (hafter : ∀ c ∈ after, p c = true) (cs : List Char) :
    trimWhere p (before ++ (cs ++ after)) = trimWhere p cs := by
  obtain ⟨front, back, hcs, hfront, hback, hhead⟩ := exists_trimWhere p cs
  have htext : before ++ (cs ++ after) =
      before ++ front ++ (trimWhere p cs ++ (back ++ after)) := by
    have hpadded := congrArg (fun middle => before ++ (middle ++ after)) hcs
    simpa only [List.append_assoc] using hpadded
  rw [htext]
  exact trimWhere_pad (List.forall_mem_append.2 ⟨hbefore, hfront⟩)
    (List.forall_mem_append.2 ⟨hback, hafter⟩) hhead
      (stops_reverse_trimWhere p cs)

/-- A character that does not separate goes into the first piece. -/
theorem exists_splitOn_cons {c : Char} (hc : c ≠ sep) (cs : List Char) :
    ∃ piece pieces, cs.splitOn sep = piece :: pieces ∧
      (c :: cs).splitOn sep = (c :: piece) :: pieces := by
  obtain ⟨piece, pieces, hcs⟩ :=
    List.exists_cons_of_ne_nil (List.splitOn_ne_nil sep cs)
  refine ⟨piece, pieces, hcs, ?_⟩
  rw [List.splitOn_cons_eq_if_modifyHead, if_neg (by simpa using hc), hcs,
    List.modifyHead_cons]

theorem splitOn_cons_self (cs : List Char) :
    (sep :: cs).splitOn sep = [] :: cs.splitOn sep := by
  rw [List.splitOn_cons_eq_if_modifyHead, if_pos (beq_self_eq_true sep)]

/-- There is one piece more than there are separators. -/
theorem length_splitOn (sep : Char) (cs : List Char) :
    (cs.splitOn sep).length = cs.count sep + 1 := by
  induction cs with
  | nil => rfl
  | cons c cs ih =>
      by_cases hc : c = sep
      · subst hc
        rw [splitOn_cons_self, List.length_cons, ih, List.count_cons_self]
      · obtain ⟨piece, pieces, hcs, hcons⟩ := exists_splitOn_cons hc cs
        rw [hcons, List.count_cons_of_ne hc, ← ih, hcs, List.length_cons,
          List.length_cons]

/-- The pieces hold the characters of the text that do not separate. -/
theorem mem_of_mem_splitOn {cs piece : List Char}
    (hpiece : piece ∈ cs.splitOn sep) :
    ∀ c ∈ piece, c ∈ cs ∧ c ≠ sep := by
  induction cs generalizing piece with
  | nil =>
      intro c hc
      simp only [List.splitOn_nil, List.mem_singleton] at hpiece
      simp [hpiece] at hc
  | cons d cs ih =>
      intro c hc
      by_cases hd : d = sep
      · subst hd
        rw [splitOn_cons_self, List.mem_cons] at hpiece
        rcases hpiece with rfl | hpiece
        · simp at hc
        · exact ⟨List.mem_cons_of_mem d (ih hpiece c hc).1, (ih hpiece c hc).2⟩
      · obtain ⟨first, pieces, hcs, hcons⟩ := exists_splitOn_cons hd cs
        rw [hcons, List.mem_cons] at hpiece
        rw [hcs] at ih
        rcases hpiece with rfl | hpiece
        · rcases List.mem_cons.1 hc with rfl | hc
          · exact ⟨List.mem_cons_self, hd⟩
          · have hmem := ih List.mem_cons_self c hc
            exact ⟨List.mem_cons_of_mem d hmem.1, hmem.2⟩
        · have hmem := ih (List.mem_cons_of_mem first hpiece) c hc
          exact ⟨List.mem_cons_of_mem d hmem.1, hmem.2⟩

theorem mem_intercalate {pieces : List (List Char)} {c : Char}
    (hc : c ∈ List.intercalate [sep] pieces) :
    c = sep ∨ ∃ piece ∈ pieces, c ∈ piece := by
  induction pieces with
  | nil => simp at hc
  | cons piece rest ih =>
      cases rest with
      | nil =>
          rw [List.intercalate_singleton] at hc
          exact Or.inr ⟨piece, List.mem_cons_self, hc⟩
      | cons next rest =>
          rw [List.intercalate_cons_cons, List.append_assoc, List.mem_append,
            List.singleton_append, List.mem_cons] at hc
          rcases hc with hc | rfl | hc
          · exact Or.inr ⟨piece, List.mem_cons_self, hc⟩
          · exact Or.inl rfl
          · rcases ih hc with rfl | ⟨q, hq, hcq⟩
            · exact Or.inl rfl
            · exact Or.inr ⟨q, List.mem_cons_of_mem piece hq, hcq⟩

end Stencil.Text

/-
What declarations leak into the rendered text.  A declaration may hold the end
of a comment, and then the renderer shows the rest of it.  Closing braces are
counted, which no trimming changes: every leak ends in one, so a template shows
more than its texts as soon as one declaration leaks.
-/
import Mathlib.Algebra.GroupWithZero.Nat
import Stencil.Proofs.Rendering.Tags

namespace Stencil

open Template Text

namespace Text

variable {p : Char → Bool} {c : Char}

theorem count_dropWhile (hc : p c = false) (cs : List Char) :
    (cs.dropWhile p).count c = cs.count c := by
  have hrun : c ∉ cs.takeWhile p := fun hmem => by
    rw [List.mem_takeWhile_imp hmem] at hc
    contradiction
  calc (cs.dropWhile p).count c
    _ = (cs.takeWhile p).count c + (cs.dropWhile p).count c := by
        rw [List.count_eq_zero.2 hrun, Nat.zero_add]
    _ = cs.count c := by
        rw [← List.count_append, List.takeWhile_append_dropWhile]

end Text

namespace Template

variable {inputs : Inputs} {last : List Char} {pieces : List (List Char × Tag)}

/-- Trimming takes white space only. -/
theorem count_trimText {c : Char} (hc : isBlank c = false) (start stop : Bool)
    (cs : List Char) :
    (trimText start stop cs).count c = cs.count c := by
  have hstart : (trimText start false cs).count c = cs.count c := by
    cases start with
    | false => rfl
    | true => exact count_dropWhile hc cs
  cases stop with
  | false => exact hstart
  | true =>
      rw [trimText_true, trimBlanksEnd, List.count_reverse, count_dropWhile hc,
        List.count_reverse, hstart]

/-- What is shown beyond a text that leaks nothing is what leaks. -/
theorem Layout.count_displayFrom_leaking {c : Char} (hc : isBlank c = false)
    (inputs : Inputs) (last : List Char) (pieces : List (List Char × Tag))
    (trim other : Bool) :
    (displayFrom (Tag.leakingDisplay inputs) last trim pieces).count c =
      (displayFrom (Tag.display inputs) last other pieces).count c +
        (pieces.map fun piece => piece.2.leak.count c).sum := by
  induction pieces generalizing trim other with
  | nil => simp [displayFrom, count_trimText hc]
  | cons piece rest ih =>
      obtain ⟨text, tag⟩ := piece
      have hshown : ((Tag.leakingDisplay inputs).shown tag).count c =
          ((Tag.display inputs).shown tag).count c + tag.leak.count c := by
        cases tag with
        | declaration s => simp [Tag.leakingDisplay, Tag.display, Tag.leak]
        | reference name => simp [Tag.leakingDisplay, Tag.display, Tag.leak]
      simp only [displayFrom, List.count_append, count_trimText hc, hshown,
        List.map_cons, List.sum_cons,
        ih _ ((Tag.display inputs).trimsAfter tag)]
      omega

theorem Tag.leak_eq_nil_of_count {tag : Tag} (h : tag.leak.count '}' = 0) :
    tag.leak = [] := by
  cases tag with
  | declaration s =>
      refine Classical.byContradiction fun hleak => ?_
      exact List.count_eq_zero.1 h
        (List.mem_of_getLast? (s.getLast?_leak hleak))
  | reference name => rfl

/-- Leaks are seen. -/
theorem Layout.display_leaking_iff :
    display (Tag.leakingDisplay inputs) ⟨pieces, last⟩ =
        display (Tag.display inputs) ⟨pieces, last⟩ ↔
      ∀ piece ∈ pieces, piece.2.leak = [] := by
  constructor
  · intro h piece hpiece
    have hdisplay : displayFrom (Tag.leakingDisplay inputs) last false pieces =
        displayFrom (Tag.display inputs) last false pieces := h
    have hcount :=
      count_displayFrom_leaking
        (show isBlank '}' = false by decide) inputs last pieces
        false false
    have hsum : (pieces.map fun piece => piece.2.leak.count '}').sum = 0 := by
      rw [hdisplay] at hcount
      omega
    refine Tag.leak_eq_nil_of_count
      (List.sum_eq_zero_iff_forall_eq_nat.1 hsum _ ?_)
    exact List.mem_map_of_mem (f := fun piece => piece.2.leak.count '}') hpiece
  · intro h
    exact displayFrom_leaking h

end Template

/-- An annotated template whose declarations leak no code, with all references
defined, is rendered.  Shown are its texts and, behind the comment that each
declaration is taken for, what leaks from it; nothing leaks exactly if no
declaration holds the end of a comment. -/
theorem renderTemplate_leaking {t : Layout Tag} {template : String}
    {now : DateTime} {mode : CoercionMode} {raw : RawInputs} {inputs : Inputs}
    (htext : template.toList = t.chars Tag.chars) (hplain : t.Plain)
    (htags : ∀ piece ∈ t.pieces, piece.2.Admissible)
    (hcoerce : (Schema.ofTemplate template).coerce now mode raw = .ok inputs)
    (hdefined : ∀ piece ∈ t.pieces, piece.2.Defined inputs) :
    ∃ kept, FinalBreak t.last kept ∧
      renderTemplate now mode template raw =
        .ok ⟨String.ofList
          (Layout.display (Tag.leakingDisplay inputs) ⟨t.pieces, kept⟩),
          inputs⟩ ∧
      (Layout.display (Tag.leakingDisplay inputs) ⟨t.pieces, kept⟩ =
          Layout.display (Tag.display inputs) ⟨t.pieces, kept⟩ ↔
        ∀ s, Tag.declaration s ∈ t.tags → ¬ ['#', '}'] <:+: s.body) := by
  obtain ⟨kept, hkept⟩ := FinalBreak.exists_of_text t.last
  have hrender := render_tags_ok htext hplain htags hkept hdefined
  refine ⟨kept, hkept, renderTemplate_of_render hcoerce hrender, ?_⟩
  rw [Layout.display_leaking_iff]
  constructor
  · intro hnothing s hs
    obtain ⟨piece, hpiece, heq⟩ := List.mem_map.1 hs
    have hleak := hnothing piece hpiece
    rw [heq] at hleak
    exact s.leak_eq_nil_iff.1 hleak
  · rintro hbodies ⟨text, tag⟩ hpiece
    cases tag with
    | declaration s =>
        apply s.leak_eq_nil_iff.2
        exact hbodies s (List.mem_map_of_mem hpiece)
    | reference name => rfl

theorem isBlank_of_mem_space : ∀ c ∈ [' '], isBlank c = true :=
  forall_mem_of_all (by decide)

theorem space_ne_nil : [' '] ≠ [] := by decide

theorem isWord_of_mem_letter : ∀ c ∈ ['a'], isWord c = true :=
  forall_mem_of_all (by decide)

theorem letter_ne_nil : ['a'] ≠ [] := by decide

/-- A declaration with the end of a comment in its label. -/
def labelSpelling : Spelling where
  gap := [' ']
  space := [' ']
  name := ['a']
  body := " label=\"x #\x7d y\" ".toList
  gap_blank := isBlank_of_mem_space
  space_blank := isBlank_of_mem_space
  space_ne_nil := space_ne_nil
  name_word := isWord_of_mem_letter
  name_ne_nil := letter_ne_nil
  body_plain := by decide
  body_ne_nil := by decide

def labelLayout : Layout Tag where
  pieces := [(['H', 'i', ' '], .declaration labelSpelling)]
  last := " there".toList

def labelTemplate : String :=
  "Hi \x7b#- @variable a: label=\"x #\x7d y\" -#\x7d there"

theorem toList_labelTemplate :
    labelTemplate.toList = labelLayout.chars Tag.chars := by
  decide +kernel

theorem coerce_labelTemplate :
    (Schema.ofTemplate labelTemplate).coerce default .lenient [] = .ok [] := by
  have hschema : Schema.ofTemplate labelTemplate =
      [{ name := "a", label := "x #\x7d y" }] := by
    decide +kernel
  rw [hschema]
  rfl

theorem labelLayout_plain : labelLayout.Plain :=
  ⟨by decide, by decide⟩

theorem labelLayout_admissible :
    ∀ piece ∈ labelLayout.pieces, piece.2.Admissible := by
  have hlabel : (Tag.declaration labelSpelling).Admissible := by
    unfold Tag.Admissible
    decide +kernel
  simpa [labelLayout] using hlabel

theorem labelLayout_defined :
    ∀ piece ∈ labelLayout.pieces, piece.2.Defined [] := by
  simp [labelLayout, Tag.Defined]

theorem labelLayout_display :
    String.ofList
      (Layout.display (Tag.leakingDisplay [])
        ⟨labelLayout.pieces, labelLayout.last⟩) =
      "Hi y\" -#\x7d there" := by
  decide +kernel

/-- The rest of the label is shown, and so is the blank behind the
declaration. -/
theorem renderTemplate_labelTemplate :
    renderTemplate default .lenient labelTemplate [] =
      .ok ⟨"Hi y\" -#\x7d there", []⟩ := by
  obtain ⟨kept, hkept, hresult, -⟩ :=
    renderTemplate_leaking toList_labelTemplate
      labelLayout_plain labelLayout_admissible coerce_labelTemplate
        labelLayout_defined
  obtain rfl : labelLayout.last = kept := hkept.dropFinalBreak_eq
  rw [hresult, labelLayout_display]

/-- Although its declaration is found, the template does not render to its
texts. -/
theorem labelTemplate_not_hidden :
    Schema.ofTemplate labelTemplate = [{ name := "a", label := "x #\x7d y" }] ∧
      renderTemplate default .lenient labelTemplate [] ≠
        .ok ⟨"Hithere", []⟩ := by
  have hrender :=
    render_tags_ok toList_labelTemplate labelLayout_plain labelLayout_admissible
      (.none (by simp [labelLayout])) labelLayout_defined
  refine ⟨by decide +kernel, ?_⟩
  intro hhidden
  rw [renderTemplate_of_render coerce_labelTemplate hrender,
    labelLayout_display] at hhidden
  exact absurd (congrArg Rendering.result (Except.ok.inj hhidden)) (by decide)

end Stencil

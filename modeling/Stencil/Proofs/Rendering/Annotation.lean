/-
Rendering an annotated template whose declarations hold no end of a comment.
Declarations disappear with the white space next to them, references are
replaced by the printed values of their inputs, and a reference without an input
is reported with its line.
-/
import Stencil.Proofs.Rendering.Tags

namespace Stencil

open Template Text

/-- A reference that is not defined has a first one before it, or is the
first. -/
theorem Template.exists_first_undefined {inputs : Inputs}
    {pieces : List (List Char × Tag)}
    (h : ¬ ∀ piece ∈ pieces, piece.2.Defined inputs) :
    ∃ before text name after,
      pieces = before ++ (text, .reference name) :: after ∧
      (∀ piece ∈ before, piece.2.Defined inputs) ∧ inputs.get? name = none := by
  induction pieces with
  | nil => simp at h
  | cons piece rest ih =>
      by_cases hpiece : piece.2.Defined inputs
      · have hrest : ¬ ∀ piece ∈ rest, piece.2.Defined inputs :=
          fun hrest => h (List.forall_mem_cons.2 ⟨hpiece, hrest⟩)
        obtain ⟨before, text, name, after, rfl, hbefore, hname⟩ := ih hrest
        exact ⟨piece :: before, text, name, after, rfl,
          List.forall_mem_cons.2 ⟨hpiece, hbefore⟩, hname⟩
      · obtain ⟨text, tag⟩ := piece
        cases tag with
        | declaration s => exact absurd trivial hpiece
        | reference name =>
            have hname : inputs.get? name = none := by
              simpa [Tag.Defined, Entries.contains] using hpiece
            exact ⟨[], text, name, rest, rfl, by simp, hname⟩

/-- An annotated template whose declarations hold no end of a comment.  Its
variables are those that it declares.  If all references are to inputs, each is
replaced by the printed value of its input, each declaration disappears with the
white space next to it, and one line break at the end does; otherwise the line
of the first other reference is reported.  A text is printed as it stands,
whatever it holds. -/
theorem renderTemplate_annotated {t : Layout Tag} {template : String}
    {now : DateTime} {mode : CoercionMode} {raw : RawInputs} {inputs : Inputs}
    (htext : template.toList = t.chars Tag.chars) (hplain : t.Plain)
    (htags : ∀ piece ∈ t.pieces, piece.2.Closed)
    (hcoerce : (Schema.ofTemplate template).coerce now mode raw = .ok inputs) :
    Schema.ofTemplate template =
      (t.tags.filterMap Tag.declaration?).map Declaration.toVariable ∧
    ((∀ piece ∈ t.pieces, piece.2.Defined inputs) →
      ∃ kept, FinalBreak t.last kept ∧
        renderTemplate now mode template raw =
          .ok ⟨String.ofList
            (Layout.display (Tag.display inputs) ⟨t.pieces, kept⟩), inputs⟩) ∧
    ((¬ ∀ piece ∈ t.pieces, piece.2.Defined inputs) →
      ∃ before text name after,
        t.pieces = before ++ (text, .reference name) :: after ∧
        (∀ piece ∈ before, piece.2.Defined inputs) ∧ inputs.get? name = none ∧
        renderTemplate now mode template raw =
          .error (.template (.fault .undefinedValue
            (1 + (Layout.chars Tag.chars ⟨before, text⟩).count '\n')))) ∧
    (∀ name,
      (∀ s, inputs.get? name = some (.string s) →
        printedInput inputs name = s.toList) ∧
      (∀ n, inputs.get? name = some (.integer n) →
        printedInput inputs name = (toString n).toList) ∧
      (∀ m, inputs.get? name = some (.datetime m) →
        printedInput inputs name = m.text.toList)) := by
  have hadmissible : ∀ piece ∈ t.pieces, piece.2.Admissible :=
    fun piece hpiece => (htags piece hpiece).admissible
  refine ⟨Schema.ofTemplate_tags htext hplain hadmissible, ?_, ?_, ?_⟩
  · intro hdefined
    obtain ⟨kept, hkept⟩ := FinalBreak.exists_of_text t.last
    have hrender := render_tags_ok htext hplain hadmissible hkept hdefined
    have hdisplay : Layout.display (Tag.leakingDisplay inputs)
        ⟨t.pieces, kept⟩ =
        Layout.display (Tag.display inputs) ⟨t.pieces, kept⟩ :=
      Layout.displayFrom_leaking fun piece hpiece =>
        (htags piece hpiece).leak_eq_nil
    rw [hdisplay] at hrender
    exact ⟨kept, hkept, renderTemplate_of_render hcoerce hrender⟩
  · intro hmissing
    obtain ⟨before, text, name, after, hpieces, hbefore, hname⟩ :=
      exists_first_undefined hmissing
    have hrender :=
      render_tags_undefined htext hplain hadmissible hpieces hbefore hname
    exact ⟨before, text, name, after, hpieces, hbefore, hname,
      renderTemplate_of_failure hcoerce hrender⟩
  · intro name
    refine ⟨?_, ?_, ?_⟩
    · intro s hs
      exact printedInput_of_get? hs
    · intro n hn
      exact printedInput_of_get? hn
    · intro m hm
      exact printedInput_of_get? hm

/-- A declaration of a number, on one line. -/
def countSpelling : Spelling where
  gap := [' ']
  space := [' ']
  name := ['a']
  body := " type=integer ".toList
  gap_blank := forall_mem_of_all (by decide)
  space_blank := forall_mem_of_all (by decide)
  space_ne_nil := by decide
  name_word := forall_mem_of_all (by decide)
  name_ne_nil := by decide
  body_plain := by decide
  body_ne_nil := by decide

/-- A declaration of a text, with a label that looks like a tag. -/
def noteSpelling : Spelling where
  gap := []
  space := ['\n']
  name := ['b']
  body := " label=\"\x7b\x7b\" ".toList
  gap_blank := forall_mem_of_all (by decide)
  space_blank := forall_mem_of_all (by decide)
  space_ne_nil := by decide
  name_word := forall_mem_of_all (by decide)
  name_ne_nil := by decide
  body_plain := by decide
  body_ne_nil := by decide

def noteLayout : Layout Tag where
  pieces := [(['\n', ' '], .declaration countSpelling),
    ([' ', '\t'], .declaration noteSpelling), (['\n'], .reference "b"),
    ([':', ' '], .reference "a")]
  last := ['\r', '\n']

def noteTemplate : String :=
  "\n \x7b#- @variable a: type=integer -#\x7d \t" ++
    "\x7b#-@variable\nb: label=\"\x7b\x7b\" -#\x7d\n" ++
      "\x7b\x7b b \x7d\x7d: \x7b\x7b a \x7d\x7d\r\n"

def noteRaw : RawInputs :=
  [("a", .string "3"), ("b", .string " \x7b\x7b a \x7d\x7d ")]

def noteInputs : Inputs :=
  [("a", .integer 3), ("b", .string " \x7b\x7b a \x7d\x7d ")]

/-- A text that looks like a reference keeps its blanks and its braces, and of
the template only a colon and a space are left. -/
theorem renderTemplate_noteTemplate :
    renderTemplate default .lenient noteTemplate noteRaw =
      .ok ⟨" \x7b\x7b a \x7d\x7d : 3", noteInputs⟩ := by
  have htext : noteTemplate.toList = noteLayout.chars Tag.chars := by
    decide +kernel
  have hschema : Schema.ofTemplate noteTemplate =
      [{ name := "a", type := .integer },
        { name := "b", label := "\x7b\x7b" }] := by
    decide +kernel
  have hcoerce :
      (Schema.ofTemplate noteTemplate).coerce default .lenient noteRaw =
      .ok noteInputs := by
    rw [hschema]
    rfl
  have hcount : (Tag.declaration countSpelling).Closed := by
    unfold Tag.Closed
    decide +kernel
  have hnote : (Tag.declaration noteSpelling).Closed := by
    unfold Tag.Closed
    decide +kernel
  have htags : ∀ piece ∈ noteLayout.pieces, piece.2.Closed := by
    simp only [noteLayout, List.forall_mem_cons, List.not_mem_nil,
      false_implies, implies_true, and_true]
    exact ⟨hcount, hnote, ⟨⟨'b', [], rfl, by decide, by simp⟩, by decide⟩,
      ⟨⟨'a', [], rfl, by decide, by simp⟩, by decide⟩⟩
  have hdefined : ∀ piece ∈ noteLayout.pieces, piece.2.Defined noteInputs := by
    simp only [noteLayout, List.forall_mem_cons, List.not_mem_nil,
      false_implies, implies_true, and_true]
    exact ⟨trivial, trivial, rfl, rfl⟩
  have hdisplay : Layout.display (Tag.display noteInputs)
      ⟨noteLayout.pieces, []⟩ =
      " \x7b\x7b a \x7d\x7d : 3".toList := rfl
  obtain ⟨-, hok, -⟩ :=
    renderTemplate_annotated htext ⟨by decide, by decide⟩ htags hcoerce
  obtain ⟨kept, hkept, hresult⟩ := hok hdefined
  obtain rfl : ([] : List Char) = kept := hkept.dropFinalBreak_eq
  rw [hresult, hdisplay, String.ofList_toList]

/-- A carriage return alone is a line break too. -/
theorem renderTemplate_carriage_return :
    renderTemplate default .lenient "a\r" [] = .ok ⟨"a", []⟩ ∧
      renderTemplate default .lenient "a\r" [] ≠ .ok ⟨"a\r", []⟩ := by
  have htext : "a\r".toList = Layout.chars Tag.chars ⟨[], ['a', '\r']⟩ := rfl
  have hdefined : ∀ piece ∈ ([] : List (List Char × Tag)),
      piece.2.Defined [] := by simp
  have hrender := render_tags_ok (t := ⟨[], ['a', '\r']⟩) htext
    ⟨by simp, by decide⟩ (by simp)
    (.carriageReturn ['a']) hdefined
  have hcoerce : (Schema.ofTemplate "a\r").coerce default .lenient [] =
      .ok [] := by
    have hschema : Schema.ofTemplate "a\r" = [] := by decide +kernel
    rw [hschema]
    rfl
  have hresult : renderTemplate default .lenient "a\r" [] = .ok ⟨"a", []⟩ :=
    renderTemplate_of_render hcoerce hrender
  refine ⟨hresult, ?_⟩
  intro hother
  rw [hresult] at hother
  exact absurd (congrArg Rendering.result (Except.ok.inj hother)) (by decide)

end Stencil

/-
Declared variables read back as written.  A writing of a variable leaves open
the order of the clauses, the quotes, the white space and all text in between;
extraction returns the variable from each of its writings.
-/
import Stencil.Proofs.Schema.ClauseEffect
import Stencil.Proofs.Schema.Extraction

namespace Stencil

open Text Declaration

/-- White space in front of the clauses makes no difference. -/
theorem Spelling.toVariable_declaration (s : Spelling) :
    s.declaration.toVariable =
      (Clause.scan s.body).foldl apply { name := String.ofList s.name } := by
  have hscan : Clause.scan s.config = Clause.scan s.body := by
    rw [config]
    split
    next hblank =>
      have hlast := List.all_eq_true.1 hblank _ (List.getLast_mem s.body_ne_nil)
      rw [Clause.scan_of_not_word (isWord_eq_false_of_isBlank hlast),
        ← Clause.scan_dropWhile_isBlank s.body,
        List.dropWhile_eq_nil_iff.2 (List.all_eq_true.1 hblank)]
    next => exact Clause.scan_dropWhile_isBlank s.body
  rw [toVariable, declaration, Clause.ofConfig, String.toList_ofList, hscan]

/-- A declaration as written, with its clauses told apart. -/
structure VariableSpelling where
  gap : List Char
  space : List Char
  name : List Char
  clauses : List (List Char × ClauseSpelling)
  tail : List Char

namespace VariableSpelling

/-- The text between the colon and the end. -/
def body (w : VariableSpelling) : List Char :=
  clausesChars w.clauses w.tail

def chars (w : VariableSpelling) : List Char :=
  opening ++ w.gap ++ keyword ++ w.space ++ w.name ++ [':'] ++ w.body ++ closing

/-- The spelling is one of a variable.  A field without a clause has its
default. -/
structure Writes (w : VariableSpelling) (v : Variable) : Prop where
  gap_blank : ∀ c ∈ w.gap, isBlank c = true
  space_blank : ∀ c ∈ w.space, isBlank c = true
  space_ne_nil : w.space ≠ []
  name_eq : w.name = v.name.toList
  name_word : ∀ c ∈ w.name, isWord c = true
  name_ne_nil : w.name ≠ []
  separates : ∀ clause ∈ w.clauses, Separates clause.1
  tail_separates : Separates w.tail
  clauses_valid : ∀ clause ∈ w.clauses, clause.2.Valid
  clauses_said : ∀ clause ∈ w.clauses, clause.2.Says v
  other_default : ∀ k, k ∉ w.clauses.map (fun clause => clause.2.key) →
    k.Agree { name := v.name } v

variable {w : VariableSpelling} {v : Variable}

theorem hyphen_not_mem_body (h : w.Writes v) : '-' ∉ w.body := by
  rw [body, clausesChars, List.mem_append, not_or, List.mem_flatMap]
  refine ⟨?_, h.tail_separates.hyphen_not_mem⟩
  rintro ⟨clause, hclause, hmem⟩
  rw [List.mem_append] at hmem
  rcases hmem with hmem | hmem
  · exact (h.separates clause hclause).hyphen_not_mem hmem
  · exact clause.2.hyphen_not_mem_chars (h.clauses_valid clause hclause) hmem

theorem body_ne_nil (h : w.Writes v) : w.body ≠ [] := by
  obtain ⟨c, rest, heq, -⟩ := breaks_clausesChars h.separates h.tail_separates
  rw [body, heq]
  exact List.cons_ne_nil c rest

/-- A written variable as a declaration that stands in a text. -/
def spelling (w : VariableSpelling) (h : w.Writes v) : Spelling where
  gap := w.gap
  space := w.space
  name := w.name
  body := w.body
  gap_blank := h.gap_blank
  space_blank := h.space_blank
  space_ne_nil := h.space_ne_nil
  name_word := h.name_word
  name_ne_nil := h.name_ne_nil
  body_plain := hyphen_not_mem_body h
  body_ne_nil := body_ne_nil h

theorem spelling_chars (h : w.Writes v) : (w.spelling h).chars = w.chars := by
  simp [Spelling.chars, Spelling.inner, spelling, chars]

/-- What a spelling declares does not depend on how it is spelled. -/
theorem toVariable_spelling (h : w.Writes v) :
    (w.spelling h).declaration.toVariable = v := by
  let clauses := w.clauses.map Prod.snd
  have hname : String.ofList w.name = v.name := by
    rw [h.name_eq, String.ofList_toList]
  have hscan : Clause.scan w.body = clauses.map ClauseSpelling.clause := by
    rw [body, scan_clausesChars h.separates h.clauses_valid h.tail_separates,
      List.map_map]
    rfl
  have hclauses : ∀ c ∈ clauses, c.Valid ∧ c.Says v := by
    intro c hc
    obtain ⟨clause, hclause, rfl⟩ := List.mem_map.1 hc
    exact ⟨h.clauses_valid clause hclause, h.clauses_said clause hclause⟩
  have hfold : (w.spelling h).declaration.toVariable =
      (clauses.map ClauseSpelling.clause).foldl apply { name := v.name } := by
    rw [Spelling.toVariable_declaration, ← hname, ← hscan]
    rfl
  rw [hfold]
  apply ClauseKey.eq_of_agree
  · exact ClauseSpelling.foldl_apply_name
  · intro k
    apply ClauseSpelling.foldl_apply_agree hclauses
    by_cases hk : k ∈ clauses.map ClauseSpelling.key
    · exact Or.inl hk
    · refine Or.inr (h.other_default k ?_)
      rwa [List.map_map] at hk

end VariableSpelling

/-- A written variable with the text in front of it. -/
structure TemplatePiece where
  before : String
  spelling : VariableSpelling
  written : Variable

/-- A template with a text after the last of its pieces. -/
def templateText (pieces : List TemplatePiece) (after : String) : String :=
  String.ofList
    (pieces.flatMap (fun piece =>
      piece.before.toList ++ piece.spelling.chars) ++
    after.toList)

/-- Each piece adds its variable to what the texts around it declare. -/
theorem ofTemplate_templateText {pieces : List TemplatePiece} (after : String)
    (h : ∀ piece ∈ pieces, piece.spelling.Writes piece.written) :
    Schema.ofTemplate (templateText pieces after) =
      pieces.flatMap
        (fun piece => Schema.ofTemplate piece.before ++ [piece.written]) ++
        Schema.ofTemplate after := by
  induction pieces with
  | nil => simp [templateText]
  | cons piece pieces ih =>
      have hpiece := h piece List.mem_cons_self
      have hrest := ih fun p hp => h p (List.mem_cons_of_mem piece hp)
      rw [templateText, Schema.ofTemplate, String.toList_ofList] at hrest
      have htext : (templateText (piece :: pieces) after).toList =
          piece.before.toList ++ ((piece.spelling.spelling hpiece).chars ++
            (pieces.flatMap (fun piece =>
              piece.before.toList ++ piece.spelling.chars) ++
              after.toList)) := by
        simp [templateText, VariableSpelling.spelling_chars]
      rw [Schema.ofTemplate, htext, scan_append_chars, List.map_append,
        List.map_cons, VariableSpelling.toVariable_spelling, hrest,
        List.flatMap_cons]
      simp [Schema.ofTemplate]

end Stencil

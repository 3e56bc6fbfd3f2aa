/-
Writing and reading a schema.  Every variable that a declaration can express
has a writing, and a template returns the variables from all their writings.
-/
import Stencil.Proofs.Schema.ReadBack

namespace Stencil

open Text

/-- Text that can be written in quotes of one kind or the other. -/
def Quotable (s : String) : Prop :=
  '-' ∉ s.toList ∧ ('"' ∉ s.toList ∨ '\'' ∉ s.toList)

/-- Text that can be an option. -/
structure Listable (s : String) : Prop where
  plain : ∀ c ∈ s.toList, c ∉ [',', ']', '-', '"', '\'']
  head_not_blank : Stops isBlank s.toList
  last_not_blank : Stops isBlank s.toList.reverse

/-- A limit that can be written in digits. -/
def Bound.Writable (bound : Bound) : Prop :=
  ∃ n : Nat, bound = .integer n ∧ n < 9223372036854775808

/-- A variable that a declaration can express. -/
structure Variable.Writable (v : Variable) : Prop where
  name_word : ∀ c ∈ v.name.toList, isWord c = true
  name_ne_nil : v.name.toList ≠ []
  type_token : VarType.ofToken v.type.token = v.type
  type_quotable : Quotable v.type.token
  label_quotable : Quotable v.label
  options_listable : ∀ option ∈ v.options, Listable option
  min_writable : ∀ bound ∈ v.min, bound.Writable
  max_writable : ∀ bound ∈ v.max, bound.Writable
  default_quotable : ∀ text ∈ v.default, Quotable text
  placeholder_quotable : ∀ text ∈ v.placeholder, Quotable text
  description_quotable : ∀ text ∈ v.description, Quotable text

namespace ValueSpelling

def ofText (s : String) : ValueSpelling :=
  quoted (if '"' ∈ s.toList then '\'' else '"') s.toList

def ofFlag (flag : Bool) : ValueSpelling :=
  bare (if flag then "true".toList else "false".toList)

def ofOptions (options : List String) : ValueSpelling :=
  list (options.map fun option => ⟨[], none, option.toList, []⟩)

def ofBound : Bound → ValueSpelling
  | .integer n => digits (Nat.toDigits 10 n.toNat)
  | .float _ => digits []

theorem ofText_isText {s : String} (h : Quotable s) :
    (ofText s).Valid ∧ (ofText s).IsText s := by
  refine ⟨?_, rfl⟩
  by_cases hdouble : '"' ∈ s.toList
  · have hsingle : '\'' ∉ s.toList := h.2.resolve_left fun hnot => hnot hdouble
    rw [ofText, if_pos hdouble]
    exact ⟨Or.inr rfl, hsingle, h.1⟩
  · rw [ofText, if_neg hdouble]
    exact ⟨Or.inl rfl, hdouble, h.1⟩

theorem ofFlag_isText (flag : Bool) : (ofFlag flag).Valid ∧
    ∃ word, FlagWord flag word ∧ (ofFlag flag).IsText word := by
  cases flag with
  | false =>
      exact ⟨⟨by decide, forall_mem_of_all (by decide),
        stops_cons.2 (by decide)⟩, "false", rfl, rfl⟩
  | true =>
      exact ⟨⟨by decide, forall_mem_of_all (by decide),
        stops_cons.2 (by decide)⟩, "true", rfl, rfl⟩

theorem ofOptions_isOptions {options : List String} (hne : options ≠ [])
    (h : ∀ option ∈ options, Listable option) :
    (ofOptions options).Valid ∧ (ofOptions options).IsOptions options := by
  refine ⟨⟨by simpa using hne, ?_⟩, by simp [IsOptions, ofOptions]⟩
  intro item hitem
  obtain ⟨option, hoption, rfl⟩ := List.mem_map.1 hitem
  obtain ⟨hplain, hhead, hlast⟩ := h option hoption
  exact ⟨by simp, by simp, by simp, hplain, hhead, hlast⟩

theorem ofBound_isBound {bound : Bound} (h : bound.Writable) :
    (ofBound bound).Valid ∧ (ofBound bound).IsBound bound := by
  obtain ⟨n, rfl, hlt⟩ := h
  have htext : ofBound (.integer n) = digits (Nat.toDigits 10 n) := rfl
  rw [htext]
  exact ⟨Numeral.isDigits_toDigits n, by rw [Numeral.digitsValue_toDigits], by
    omega⟩

end ValueSpelling

/-- A value for the clause of a key; a field without a value has none. -/
def Variable.fieldSpelling? (v : Variable) : ClauseKey → Option ValueSpelling
  | .type => some (.ofText v.type.token)
  | .label => some (.ofText v.label)
  | .required => some (.ofFlag v.required)
  | .options => if v.options = [] then none else some (.ofOptions v.options)
  | .min => v.min.map .ofBound
  | .max => v.max.map .ofBound
  | .default => v.default.map .ofText
  | .placeholder => v.placeholder.map .ofText
  | .description => v.description.map .ofText

theorem Variable.Writable.fieldSpelling?_writes {v : Variable} (h : v.Writable)
    {k : ClauseKey} {value : ValueSpelling}
    (hvalue : v.fieldSpelling? k = some value) :
    value.Valid ∧ (ClauseSpelling.mk k [] [] value).Says v := by
  cases k with
  | type =>
      cases hvalue
      have hsaid := ValueSpelling.ofText_isText h.type_quotable
      exact ⟨hsaid.1, v.type.token, h.type_token, hsaid.2⟩
  | label =>
      cases hvalue
      exact ValueSpelling.ofText_isText h.label_quotable
  | required =>
      cases hvalue
      exact ValueSpelling.ofFlag_isText v.required
  | options =>
      rw [fieldSpelling?] at hvalue
      split at hvalue
      · contradiction
      next hne =>
        cases hvalue
        exact ValueSpelling.ofOptions_isOptions hne h.options_listable
  | min =>
      obtain ⟨bound, hbound, rfl⟩ := Option.map_eq_some_iff.1 hvalue
      have hsaid := ValueSpelling.ofBound_isBound (h.min_writable bound hbound)
      exact ⟨hsaid.1, bound, hbound, hsaid.2⟩
  | max =>
      obtain ⟨bound, hbound, rfl⟩ := Option.map_eq_some_iff.1 hvalue
      have hsaid := ValueSpelling.ofBound_isBound (h.max_writable bound hbound)
      exact ⟨hsaid.1, bound, hbound, hsaid.2⟩
  | default =>
      obtain ⟨text, htext, rfl⟩ := Option.map_eq_some_iff.1 hvalue
      have hsaid := ValueSpelling.ofText_isText (h.default_quotable text htext)
      exact ⟨hsaid.1, text, htext, hsaid.2⟩
  | placeholder =>
      obtain ⟨text, htext, rfl⟩ := Option.map_eq_some_iff.1 hvalue
      have hsaid :=
        ValueSpelling.ofText_isText (h.placeholder_quotable text htext)
      exact ⟨hsaid.1, text, htext, hsaid.2⟩
  | description =>
      obtain ⟨text, htext, rfl⟩ := Option.map_eq_some_iff.1 hvalue
      have hsaid :=
        ValueSpelling.ofText_isText (h.description_quotable text htext)
      exact ⟨hsaid.1, text, htext, hsaid.2⟩

theorem Variable.agree_of_fieldSpelling?_eq_none {v : Variable} {k : ClauseKey}
    (hvalue : v.fieldSpelling? k = none) : k.Agree { name := v.name } v := by
  cases k with
  | type => contradiction
  | label => contradiction
  | required => contradiction
  | options =>
      rw [fieldSpelling?] at hvalue
      split at hvalue
      next hnil => exact hnil.symm
      next => contradiction
  | min => exact (Option.map_eq_none_iff.1 hvalue).symm
  | max => exact (Option.map_eq_none_iff.1 hvalue).symm
  | default => exact (Option.map_eq_none_iff.1 hvalue).symm
  | placeholder => exact (Option.map_eq_none_iff.1 hvalue).symm
  | description => exact (Option.map_eq_none_iff.1 hvalue).symm

def ClauseKey.all : List ClauseKey :=
  [type, label, required, options, min, max, default, placeholder, description]

/-- All that can be said about a variable, a comma in front of each clause. -/
def Variable.spelling (v : Variable) : VariableSpelling where
  gap := [' ']
  space := [' ']
  name := v.name.toList
  clauses := ClauseKey.all.filterMap fun k =>
    (v.fieldSpelling? k).map fun value => ([','], ⟨k, [], [], value⟩)
  tail := [' ']

theorem Variable.Writable.writes_spelling {v : Variable} (h : v.Writable) :
    v.spelling.Writes v := by
  have hclause : ∀ clause ∈ v.spelling.clauses, clause.1 = [','] ∧
      clause.2.Valid ∧ clause.2.Says v := by
    intro clause hmem
    obtain ⟨k, -, hk⟩ := List.mem_filterMap.1 hmem
    obtain ⟨value, hvalue, rfl⟩ := Option.map_eq_some_iff.1 hk
    obtain ⟨hvalid, hsaid⟩ := h.fieldSpelling?_writes hvalue
    exact ⟨rfl, ⟨by simp, by simp, hvalid⟩, hsaid⟩
  have hcomma : Separates [','] :=
    ⟨by decide, by decide, ⟨',', [], rfl, Or.inl rfl⟩,
      ⟨',', [], rfl, Or.inl rfl⟩⟩
  have hspace : Separates [' '] :=
    ⟨by decide, by decide, ⟨' ', [], rfl, Or.inr rfl⟩,
      ⟨' ', [], rfl, Or.inr rfl⟩⟩
  have hblank : ∀ c ∈ [' '], isBlank c = true := forall_mem_of_all (by decide)
  exact {
    gap_blank := hblank
    space_blank := hblank
    space_ne_nil := by simp [spelling]
    name_eq := rfl
    name_word := h.name_word
    name_ne_nil := h.name_ne_nil
    separates := fun clause hmem => (hclause clause hmem).1 ▸ hcomma
    tail_separates := hspace
    clauses_valid := fun clause hmem => (hclause clause hmem).2.1
    clauses_said := fun clause hmem => (hclause clause hmem).2.2
    other_default := by
      intro k hk
      apply v.agree_of_fieldSpelling?_eq_none
      by_contra hsome
      obtain ⟨value, hvalue⟩ := Option.ne_none_iff_exists'.1 hsome
      apply hk
      rw [List.mem_map]
      refine ⟨([','], ⟨k, [], [], value⟩), ?_, rfl⟩
      refine List.mem_filterMap.2 ⟨k, ?_, by rw [hvalue]; rfl⟩
      cases k <;> decide }

/-- Each variable that a declaration can express can be written, and written
variables are read back from a template in their order, whatever the texts
around them are; a declaration in such a text is found at its place. -/
theorem Schema.ofTemplate_written :
    (∀ v : Variable, v.Writable → ∃ w : VariableSpelling, w.Writes v) ∧
    ∀ (pieces : List TemplatePiece) (after : String),
      (∀ piece ∈ pieces, piece.spelling.Writes piece.written) →
      ofTemplate (templateText pieces after) =
        pieces.flatMap
          (fun piece => ofTemplate piece.before ++ [piece.written]) ++
          ofTemplate after ∧
      ((∀ piece ∈ pieces, ofTemplate piece.before = []) →
        ofTemplate after = [] →
        ofTemplate (templateText pieces after) =
          pieces.map TemplatePiece.written) := by
  refine ⟨fun v hv => ⟨v.spelling, hv.writes_spelling⟩,
    fun pieces after hpieces => ?_⟩
  have hread := ofTemplate_templateText after hpieces
  refine ⟨hread, fun hbefore hafter => ?_⟩
  have hnone :
      pieces.map (fun piece => ofTemplate piece.before ++ [piece.written]) =
      pieces.map fun piece => [piece.written] :=
    List.map_congr_left fun piece hpiece => by
      rw [hbefore piece hpiece, List.nil_append]
  rw [hread, hafter, List.append_nil, List.flatMap_def, hnone,
    ← List.flatMap_def, ← List.map_eq_flatMap]

def sizeOptions : List OptionSpelling :=
  [⟨[' '], some '"', "small".toList, [' ']⟩,
    ⟨[], some '\'', "medium".toList, []⟩,
    ⟨['\t'], none, "extra large".toList, []⟩]

/-- A writing with the clauses out of order, both quotes, options of all kinds
and words between the clauses. -/
def sizeSpelling : VariableSpelling where
  gap := []
  space := [' ', '\n']
  name := "size".toList
  clauses := [
    ([','], ⟨.placeholder, [' '], [' '], .quoted '\'' "pick \"one\"".toList⟩),
    (", or ".toList, ⟨.options, [], [], .list sizeOptions⟩),
    ([' '], ⟨.required, [], [], .bare "TrUe".toList⟩),
    ([' ', ']', ','], ⟨.max, [], [' '], .digits "007".toList⟩)]
  tail := [' ']

def sizeVariable : Variable where
  name := "size"
  required := true
  options := ["small", "medium", "extra large"]
  max := some (.integer 7)
  placeholder := some "pick \"one\""

theorem sizeSpelling_writes : sizeSpelling.Writes sizeVariable where
  gap_blank := forall_mem_of_all (by decide)
  space_blank := forall_mem_of_all (by decide)
  space_ne_nil := by decide
  name_eq := rfl
  name_word := forall_mem_of_all (by decide)
  name_ne_nil := by decide
  separates := by
    simp only [sizeSpelling, List.forall_mem_cons, List.not_mem_nil,
      false_implies, implies_true, and_true]
    refine ⟨?_, ?_, ?_, ?_⟩
    · exact ⟨by decide, by decide, ⟨_, _, rfl, by decide⟩,
        ⟨_, _, rfl, by decide⟩⟩
    · exact ⟨by decide, by decide, ⟨_, _, rfl, by decide⟩,
        ⟨_, _, rfl, by decide⟩⟩
    · exact ⟨by decide, by decide, ⟨_, _, rfl, by decide⟩,
        ⟨_, _, rfl, by decide⟩⟩
    · exact ⟨by decide, by decide, ⟨_, _, rfl, by decide⟩,
        ⟨_, _, rfl, by decide⟩⟩
  tail_separates :=
    ⟨by decide, by decide, ⟨_, _, rfl, by decide⟩, ⟨_, _, rfl, by decide⟩⟩
  clauses_valid := by
    have hoptions : ∀ o ∈ sizeOptions, o.Valid := by
      simp only [sizeOptions, List.forall_mem_cons, List.not_mem_nil,
        false_implies, implies_true, and_true]
      refine ⟨⟨?_, ?_, ?_, ?_, stops_cons.2 (by decide),
        stops_cons.2 (by decide)⟩,
        ⟨?_, ?_, ?_, ?_, stops_cons.2 (by decide), stops_cons.2 (by decide)⟩,
        ⟨?_, ?_, ?_, ?_, stops_cons.2 (by decide), stops_cons.2 (by decide)⟩⟩
      all_goals first | exact forall_mem_of_all (by decide) | simp
    simp only [sizeSpelling, List.forall_mem_cons, List.not_mem_nil,
      false_implies, implies_true, and_true]
    refine ⟨?_, ?_, ?_, ?_⟩
    · exact ⟨forall_mem_of_all (by decide), forall_mem_of_all (by decide),
        Or.inr rfl, by decide, by decide⟩
    · exact ⟨by simp, by simp, by simp [sizeOptions], hoptions⟩
    · exact ⟨by simp, by simp, by decide, forall_mem_of_all (by decide),
        stops_cons.2 (by decide)⟩
    · exact ⟨by simp, forall_mem_of_all (by decide), rfl⟩
  clauses_said := by
    simp only [sizeSpelling, List.forall_mem_cons, List.not_mem_nil,
      false_implies, implies_true, and_true]
    exact ⟨⟨_, rfl, rfl⟩, rfl, ⟨"TrUe", by unfold FlagWord; decide, rfl⟩,
      ⟨_, rfl, rfl, by decide⟩⟩
  other_default := by
    intro k hk
    cases k <;> first | rfl | exact absurd (by decide) hk

theorem ofTemplate_sizeSpelling :
    sizeSpelling.Writes sizeVariable ∧
    Schema.ofTemplate
      (templateText [⟨"\x7b#- @variable: -#\x7d", sizeSpelling, sizeVariable⟩]
        "\x7b#-") =
      [sizeVariable] := by
  have hwrites := sizeSpelling_writes
  have hread := (Schema.ofTemplate_written.2
    [⟨"\x7b#- @variable: -#\x7d", sizeSpelling, sizeVariable⟩] "\x7b#-"
      (by simpa using hwrites)).2
    (by decide +kernel) (by decide +kernel)
  exact ⟨hwrites, hread⟩

/-- Brackets without anything between them hold one empty option, so a variable
without options is written without that clause; and a type that is not known
under its own token is not read back. -/
theorem ofTemplate_empty_list :
    Schema.ofTemplate "\x7b#- @variable a: options=[] -#\x7d" ≠
      [{ name := "a", options := [] }] ∧
    Schema.ofTemplate "\x7b#- @variable a: type=string -#\x7d" ≠
      [{ name := "a", type := .other "string" }] := by
  decide +kernel

end Stencil

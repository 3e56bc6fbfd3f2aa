/-
What no declaration can say.  The text of a declaration has no hyphen, so the
texts of its clauses have none, and what a variable takes from them keeps that:
no text of a variable has a hyphen, and no bound is below zero or written with
an exponent below zero.
-/
import Stencil.Proofs.Number.Sign
import Stencil.Proofs.Schema.ClauseGrammar
import Stencil.Proofs.Schema.Extraction
import Stencil.Proofs.Schema.LastClause

namespace Stencil

open Text

theorem ValueForm.Writes.mem_written {form : ValueForm} {written : List Char}
    {value : ClauseValue} (h : form.Writes written value) :
    ∀ c ∈ value.text.toList, c ∈ written := by
  intro c hc
  cases form with
  | enclosed e =>
      obtain ⟨inner, ⟨-, rfl⟩, rfl⟩ := h
      have hinner : c ∈ inner := by
        cases e <;> simpa [Enclosure.value, ClauseValue.text] using hc
      simp [hinner]
  | numeral =>
      obtain ⟨-, rfl⟩ := h
      simpa [ClauseValue.text] using hc
  | word =>
      obtain ⟨-, rfl⟩ := h
      simpa [ClauseValue.text] using hc

namespace Clause

theorem Reads.mem_text {found : List (List Char × ClauseSpan)}
    {text : List Char} (h : Reads found text) :
    ∀ entry ∈ found, ∀ c ∈ entry.2.value.text.toList, c ∈ text := by
  induction h with
  | tail => simp
  | @clause gap rest s found hgap hs hfirst hreads ih =>
      rw [List.forall_mem_cons]
      constructor
      · intro c hc
        obtain ⟨form, hwrites⟩ := hs.written_value
        have hwritten := hwrites.mem_written c hc
        simp [ClauseSpan.chars, hwritten]
      · intro entry hentry c hc
        apply List.mem_append_right
        apply List.mem_append_right
        exact ih entry hentry c hc

/-- A clause has no characters but those of the text it stands in. -/
theorem mem_of_mem_ofConfig {config : String} {clause : Clause}
    (h : clause ∈ ofConfig config) :
    ∀ c ∈ clause.value.text.toList, c ∈ config.toList := by
  obtain ⟨found, hreads, hscan⟩ := exists_reads_scan config.toList
  rw [ofConfig, hscan, List.map_map] at h
  obtain ⟨entry, hentry, rfl⟩ := List.mem_map.1 h
  exact hreads.mem_text entry hentry

end Clause

namespace Spelling

theorem hyphen_not_mem_config (s : Spelling) : '-' ∉ s.config := by
  intro hmem
  apply s.body_plain
  rw [config] at hmem
  split at hmem
  · rw [List.mem_singleton.1 hmem]
    apply List.getLast_mem
  · exact (List.dropWhile_sublist isBlank).subset hmem

/-- Every declaration that is found stands in the text. -/
theorem exists_of_mem_scan {text : List Char} {d : Declaration}
    (h : d ∈ Declaration.scan text) :
    ∃ s : Spelling, d = s.declaration := by
  obtain ⟨found, -, hscan⟩ := exists_finds_scan text
  rw [hscan] at h
  obtain ⟨entry, -, rfl⟩ := List.mem_map.1 h
  exact ⟨entry.2, rfl⟩

end Spelling

namespace Bound

/-- The bounds that are not negative: what is no number counts as one of
them. -/
def Nonnegative : Bound → Prop
  | integer n => 0 ≤ n ∧ n < 2 ^ 63
  | float x => x = .nan ∨ x.isNegative = false

theorem nonnegative_of_ofLiteral? {literal : String} {bound : Bound}
    (hliteral : '-' ∉ literal.toList) (h : ofLiteral? literal = some bound) :
    bound.Nonnegative := by
  unfold ofLiteral? at h
  simp only at h
  split at h
  next hdigits =>
      obtain rfl := Option.some.inj h
      rw [Bool.and_eq_true, Numeral.inInt64_iff] at hdigits
      exact ⟨Int.natCast_nonneg _, hdigits.2.2⟩
  next =>
      obtain ⟨x, hread, rfl⟩ := Option.map_eq_some_iff.1 h
      have hsign := Numeral.isNegative_of_readDouble? hread
      rwa [Numeral.takeSign_of_not_mem hliteral] at hsign

end Bound

namespace Declaration

/-- A clause of the declaration says the limit under a key. -/
def Gives (d : Declaration) (k : ClauseKey) (bound : Bound) : Prop :=
  ∃ clause ∈ Clause.ofConfig d.config,
    clause.key = k.name ∧ Bound.ofLiteral? clause.value.text = some bound

theorem gives_of_lastBound? {d : Declaration} {k : ClauseKey} {bound : Bound}
    (h : Clause.lastBound? k (Clause.ofConfig d.config) = some bound) :
    d.Gives k bound := by
  obtain ⟨clause, hclause, hbound⟩ :=
    List.mem_filterMap.1 (List.mem_of_getLast? h)
  rw [List.mem_filter, decide_eq_true_iff] at hclause
  exact ⟨clause, hclause.1, hclause.2, hbound⟩

/-- A variable has no limits but those that its declaration gives. -/
theorem gives_bounds (d : Declaration) :
    (∀ bound ∈ d.toVariable.min, d.Gives .min bound) ∧
      ∀ bound ∈ d.toVariable.max, d.Gives .max bound := by
  rw [toVariable, foldl_apply_eq]
  constructor
  · intro bound hbound
    exact gives_of_lastBound? hbound
  · intro bound hbound
    exact gives_of_lastBound? hbound

/-- An option as a list can hold it. -/
structure PlainOption (option : String) : Prop where
  hyphen : '-' ∉ option.toList
  comma : ',' ∉ option.toList
  head : option.toList.head? ≠ some '\''
  last : option.toList.getLast? ≠ some '\''

theorem plainOption_of_mem {text option : String} (htext : '-' ∉ text.toList)
    (h : option ∈ optionsOf text) : PlainOption option := by
  obtain ⟨piece, hpiece, rfl⟩ := List.mem_map.1 h
  set unquoted := trimWhere (· == '"') (trimBlanks piece) with hunquoted
  have hmem : ∀ c ∈ trimWhere (· == '\'') unquoted, c ∈ text.toList ∧
      c ≠ ',' := by
    intro c hc
    apply mem_of_mem_splitOn hpiece
    apply mem_of_mem_trimWhere
    apply mem_of_mem_trimWhere
    exact mem_of_mem_trimWhere hc
  obtain ⟨-, -, -, -, -, hhead⟩ := exists_trimWhere (· == '\'') unquoted
  have hlast := stops_reverse_trimWhere (· == '\'') unquoted
  constructor
  · rw [String.toList_ofList]
    exact fun hhyphen => htext (hmem _ hhyphen).1
  · rw [String.toList_ofList]
    exact fun hcomma => (hmem _ hcomma).2 rfl
  · rw [String.toList_ofList]
    exact fun hquote => by simpa using hhead _ hquote
  · rw [String.toList_ofList, ← List.head?_reverse]
    exact fun hquote => by simpa using hlast _ hquote

end Declaration

namespace Variable

/-- A variable as a declaration can give it. -/
structure Plain (v : Variable) : Prop where
  name_ne_nil : v.name.toList ≠ []
  name_word : ∀ c ∈ v.name.toList, isWord c = true
  type : '-' ∉ v.type.token.toList
  label : '-' ∉ v.label.toList
  options : ∀ option ∈ v.options, Declaration.PlainOption option
  min : ∀ bound ∈ v.min, bound.Nonnegative
  max : ∀ bound ∈ v.max, bound.Nonnegative
  default : ∀ text ∈ v.default, '-' ∉ text.toList
  placeholder : ∀ text ∈ v.placeholder, '-' ∉ text.toList
  description : ∀ text ∈ v.description, '-' ∉ text.toList

/-- A clause without a hyphen keeps a variable plain. -/
theorem Plain.apply {v : Variable} (h : v.Plain) {clause : Clause}
    (hclause : '-' ∉ clause.value.text.toList) :
    (Declaration.apply v clause).Plain := by
  have hsome : ∀ text ∈ some clause.value.text, '-' ∉ text.toList := by
    rintro text ⟨⟩
    exact hclause
  have hread : ∀ bound, Bound.ofLiteral? clause.value.text = some bound →
      bound.Nonnegative :=
    fun _ => Bound.nonnegative_of_ofLiteral? hclause
  unfold Declaration.apply
  simp only
  split
  · exact { h with type := by rwa [VarType.token_ofToken] }
  · exact { h with label := hclause }
  · exact { h with }
  · exact { h with options := fun option =>
      Declaration.plainOption_of_mem hclause }
  · exact { h with min := Declaration.forall_mem_bound hread h.min }
  · exact { h with max := Declaration.forall_mem_bound hread h.max }
  · exact { h with default := hsome }
  · exact { h with placeholder := hsome }
  · exact { h with description := hsome }
  · exact h

theorem Plain.foldl {v : Variable} (h : v.Plain) {clauses : List Clause}
    (hclauses : ∀ clause ∈ clauses, '-' ∉ clause.value.text.toList) :
    (clauses.foldl Declaration.apply v).Plain := by
  induction clauses generalizing v with
  | nil => exact h
  | cons clause clauses ih =>
      rw [List.forall_mem_cons] at hclauses
      exact ih (h.apply hclauses.1) hclauses.2

/-- A variable of which only the name is known. -/
theorem plain_bare (s : Spelling) : Plain { name := s.declaration.name } := by
  have hname : s.declaration.name.toList = s.name := String.toList_ofList
  have hhyphen : '-' ∉ s.name := not_mem_of_class s.name_word (by decide)
  constructor
  · rw [hname]
    exact s.name_ne_nil
  · rw [hname]
    exact s.name_word
  · exact (by decide : '-' ∉ VarType.string.token.toList)
  · rw [hname]
    exact hhyphen
  all_goals simp

end Variable

namespace Schema

theorem hyphen_not_mem_clause {text : List Char} {d : Declaration}
    (hd : d ∈ Declaration.scan text) :
    ∀ clause ∈ Clause.ofConfig d.config, '-' ∉ clause.value.text.toList := by
  intro clause hclause hhyphen
  obtain ⟨s, rfl⟩ := Spelling.exists_of_mem_scan hd
  apply s.hyphen_not_mem_config
  have hmem := Clause.mem_of_mem_ofConfig hclause _ hhyphen
  rwa [Spelling.declaration, String.toList_ofList] at hmem

/-- What every variable of every template is like: its name is a word, its texts
have no hyphen, its options no comma and no quote at either end, and its bounds
are not negative.  A bound that is negative or has an exponent below zero cannot
even be written: there are no bounds but those that clauses of the declaration
give, and no clause has a hyphen. -/
theorem ofTemplate_plain (template : String) :
    (∀ v ∈ ofTemplate template, v.Plain) ∧
    ∀ d ∈ Declaration.scan template.toList,
      (∀ clause ∈ Clause.ofConfig d.config, '-' ∉ clause.value.text.toList) ∧
      (∀ bound ∈ d.toVariable.min, d.Gives .min bound) ∧
      ∀ bound ∈ d.toVariable.max, d.Gives .max bound := by
  constructor
  · intro v hv
    obtain ⟨d, hd, rfl⟩ := List.mem_map.1 hv
    have hclauses := hyphen_not_mem_clause hd
    obtain ⟨s, rfl⟩ := Spelling.exists_of_mem_scan hd
    exact (Variable.plain_bare s).foldl hclauses
  · intro d hd
    exact ⟨hyphen_not_mem_clause hd, d.gives_bounds⟩

/-- A template with a list of options and two limits. -/
def sizeTemplate : String :=
  "\x7b#- @variable size: options=['a', it's], min=2, max=\"1e3\" -#\x7d"

/-- The declaration in that template. -/
def sizeDeclaration : Declaration :=
  ⟨"size", "options=['a', it's], min=2, max=\"1e3\" "⟩

/-- The quote inside an option stays, and an exponent is fine without a sign. -/
theorem ofTemplate_plain_size :
    (sizeDeclaration.toVariable.Plain ∧
      sizeDeclaration.toVariable.options = ["a", "it's"] ∧
      sizeDeclaration.toVariable.min = some (.integer 2) ∧
      sizeDeclaration.toVariable.max = some (.float (.ofInt 1000))) ∧
    '-' ∉ (ClauseValue.quoted "1e3").text.toList ∧
    sizeDeclaration.Gives .max (.float (.ofInt 1000)) := by
  have hd : sizeDeclaration ∈ Declaration.scan sizeTemplate.toList := by
    decide +kernel
  have hclause : ⟨"max", .quoted "1e3"⟩ ∈
      Clause.ofConfig sizeDeclaration.config := by
    decide +kernel
  have hmax : sizeDeclaration.toVariable.max = some (.float (.ofInt 1000)) := by
    decide +kernel
  have hplain := ofTemplate_plain sizeTemplate
  obtain ⟨hhyphen, -, hgives⟩ := hplain.2 _ hd
  refine ⟨⟨hplain.1 _ (List.mem_map_of_mem hd), ?_, ?_, hmax⟩,
    hhyphen _ hclause, hgives _ hmax⟩
  · decide +kernel
  · decide +kernel

end Schema

end Stencil

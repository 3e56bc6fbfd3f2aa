/-
Schemas survive JSON.  What a template declares is proper: types are those that
their tokens name, and bounds are numbers of the two kinds.  A proper schema is
read again from its JSON text, but for bounds that are not finite, for which
JSON has no numeral.
-/
import Stencil.Proofs.Command.Session
import Stencil.Proofs.Json.ReadBack
import Stencil.Proofs.Schema.ClauseEffect

namespace Stencil

namespace Bound

/-- A bound that some text stands for. -/
def Proper : Bound → Prop
  | integer n => Numeral.inInt64 n = true
  | float x => x.Canonical

/-- Whether JSON has a numeral for the bound. -/
def isFinite : Bound → Bool
  | integer _ => true
  | float x => x.isFinite

theorem proper_of_ofLiteral? {literal : String} {bound : Bound}
    (h : ofLiteral? literal = some bound) : bound.Proper := by
  unfold ofLiteral? at h
  simp only at h
  split at h
  next hdigits =>
      obtain rfl := Option.some.inj h
      rw [Bool.and_eq_true] at hdigits
      exact hdigits.2
  next =>
      obtain ⟨x, hread, rfl⟩ := Option.map_eq_some_iff.1 h
      exact Numeral.readDouble?_canonical hread

theorem readable_toJson {bound : Bound} (h : bound.Proper) (depth : Nat) :
    Json.Readable depth bound.toJson := by
  cases bound with
  | integer n => exact .integer depth (Numeral.inWord64_of_inInt64 h)
  | float x =>
      rw [toJson]
      split
      next hfinite => exact .number depth h hfinite
      next => exact .null depth

end Bound

namespace Variable

/-- A variable that some template declares, or JSON gives: its type is the one
that its token names. -/
structure Proper (v : Variable) : Prop where
  type : VarType.ofToken v.type.token = v.type
  min : ∀ bound ∈ v.min, bound.Proper
  max : ∀ bound ∈ v.max, bound.Proper

/-- The variable without the bounds that JSON cannot express. -/
def withFiniteBounds (v : Variable) : Variable :=
  { v with min := v.min.filter Bound.isFinite, max :=
    v.max.filter Bound.isFinite }

/-- A clause keeps a variable proper. -/
theorem proper_apply {v : Variable} (h : v.Proper) (clause : Clause) :
    (Declaration.apply v clause).Proper := by
  have hread : ∀ bound, Bound.ofLiteral? clause.value.text = some bound →
      bound.Proper :=
    fun _ => Bound.proper_of_ofLiteral?
  unfold Declaration.apply
  simp only
  split
  · refine ⟨?_, h.min, h.max⟩
    exact congrArg VarType.ofToken (VarType.token_ofToken clause.value.text)
  · exact ⟨h.type, h.min, h.max⟩
  · exact ⟨h.type, h.min, h.max⟩
  · exact ⟨h.type, h.min, h.max⟩
  · exact ⟨h.type, Declaration.forall_mem_bound hread h.min, h.max⟩
  · exact ⟨h.type, h.min, Declaration.forall_mem_bound hread h.max⟩
  · exact ⟨h.type, h.min, h.max⟩
  · exact ⟨h.type, h.min, h.max⟩
  · exact ⟨h.type, h.min, h.max⟩
  · exact h

theorem proper_foldl {v : Variable} (h : v.Proper) (clauses : List Clause) :
    (clauses.foldl Declaration.apply v).Proper := by
  induction clauses generalizing v with
  | nil => exact h
  | cons clause clauses ih => exact ih (proper_apply h clause)

theorem proper_toVariable (d : Declaration) : d.toVariable.Proper := by
  have hbare : Proper { name := d.name } := ⟨rfl, by simp, by simp⟩
  exact proper_foldl hbare (Clause.ofConfig d.config)

theorem readable_toJson {v : Variable} (h : v.Proper) (depth : Nat) :
    Json.Readable (depth + 2) v.toJson := by
  have htext : ∀ s? : Option String,
      Json.Readable (depth + 1) ((s?.map Json.string).getD .null) := by
    intro s?
    cases s? with
    | none => exact .null _
    | some s => exact .string _ s
  have hbound : ∀ bound? : Option Bound, (∀ bound ∈ bound?, bound.Proper) →
      Json.Readable (depth + 1) ((bound?.map Bound.toJson).getD .null) := by
    intro bound? hproper
    cases bound? with
    | none => exact .null _
    | some bound => exact Bound.readable_toJson (hproper bound rfl) _
  have hoptions : Json.Readable (depth + 1)
      (.array (v.options.map Json.string)) := by
    refine .array fun item hitem => ?_
    obtain ⟨s, -, rfl⟩ := List.mem_map.1 hitem
    exact .string depth s
  refine .object fun field hfield => ?_
  simp only [List.mem_cons, List.not_mem_nil, or_false] at hfield
  rcases hfield with rfl | rfl | rfl | rfl | rfl | rfl | rfl | rfl | rfl | rfl
  · exact .string _ _
  · exact .string _ _
  · exact .string _ _
  · exact .bool _ _
  · exact hoptions
  · exact hbound v.min h.min
  · exact hbound v.max h.max
  · exact htext v.default
  · exact htext v.placeholder
  · exact htext v.description

theorem optional?_bound {bound? : Option Bound}
    (h : ∀ bound ∈ bound?, bound.Proper) :
    optional? Bound.ofJson? ((bound?.map Bound.toJson).getD .null) =
      some (bound?.filter Bound.isFinite) := by
  cases bound? with
  | none => rfl
  | some bound =>
      cases bound with
      | integer n =>
          have hn : Numeral.inInt64 n = true := h _ rfl
          simp [Bound.toJson, optional?, Bound.ofJson?, hn,
            Option.filter, Bound.isFinite]
      | float x =>
          cases hx : x.isFinite with
          | true =>
              simp [Bound.toJson, optional?, Bound.ofJson?, hx, Option.filter,
                Bound.isFinite]
          | false =>
              simp [Bound.toJson, optional?, hx, Option.filter, Bound.isFinite]

theorem optional?_text (s? : Option String) :
    optional? text? ((s?.map Json.string).getD .null) = some s? := by
  cases s? with
  | none => rfl
  | some s => rfl

theorem texts?_map (texts : List String) :
    texts? (.array (texts.map Json.string)) = some texts := by
  rw [texts?]
  induction texts with
  | nil => rfl
  | cons s texts ih => simp [ih, text?]

/-- All ten fields are found under their names. -/
theorem ofJson?_toJson {v : Variable} (h : v.Proper) :
    ofJson? v.toJson = some v.withFiniteBounds := by
  have hknown : 10 ≤ fieldNames.eraseDups.length := by decide
  unfold fieldNames at hknown
  simp only [ofJson?, toJson, fieldNames, List.contains_cons]
  simp [ofFields?, List.lookup_cons, text?, flag?, hknown, h.type, texts?_map,
    optional?_text, optional?_bound h.min, optional?_bound h.max,
    withFiniteBounds]

end Variable

namespace Schema

variable {schema : Schema}

theorem readable_toJson (h : ∀ v ∈ schema, v.Proper) (depth : Nat) :
    Json.Readable (depth + 3) schema.toJson := by
  refine .array fun item hitem => ?_
  obtain ⟨v, hv, rfl⟩ := List.mem_map.1 hitem
  exact Variable.readable_toJson (h v hv) depth

theorem mapM_ofJson?_toJson (h : ∀ v ∈ schema, v.Proper) :
    (schema.map Variable.toJson).mapM Variable.ofJson? =
      some (schema.map Variable.withFiniteBounds) := by
  induction schema with
  | nil => rfl
  | cons v rest ih =>
      have hv := Variable.ofJson?_toJson (h v List.mem_cons_self)
      have hrest := ih fun w hw => h w (List.mem_cons_of_mem v hw)
      simp [hv, hrest]

/-- Every text that holds the JSON form of a proper schema is read as that
schema. -/
theorem ofText?_of_holds (h : ∀ v ∈ schema, v.Proper) {text : String}
    (htext : Json.ofTextAsWritten? text = some schema.toJson) :
    ofText? text = some (schema.map Variable.withFiniteBounds) := by
  rw [ofText?, htext]
  exact mapM_ofJson?_toJson h

theorem proper_ofTemplate (template : String) :
    ∀ v ∈ ofTemplate template, v.Proper := by
  intro v hv
  obtain ⟨d, -, rfl⟩ := List.mem_map.1 hv
  exact Variable.proper_toVariable d

/-- The schema of a template survives JSON.  Both layouts of its JSON text are
read as the same variables with all their fields, except that a bound that is
not finite is absent.  The indented text is the line that `vars` prints with
`--json`, whatever the template file holds. -/
theorem ofText?_toJson :
    (∀ template,
      ofText? (ofTemplate template).toJson.compact =
        some ((ofTemplate template).map Variable.withFiniteBounds) ∧
      ofText? (ofTemplate template).toJson.indented =
        some ((ofTemplate template).map Variable.withFiniteBounds)) ∧
    ∀ environment wording now path (session : Session),
      ((Session.host environment wording now).runVars path true).run.run
        session =
        (((session.files.readText path).mapError (.template "vars" path)).map
          fun template =>
          [(ofTemplate template).toJson.indented], session) := by
  constructor
  · intro template
    have hproper := proper_ofTemplate template
    have hreadable : Json.Readable Json.maxDepth (ofTemplate template).toJson :=
      readable_toJson hproper 124
    exact ⟨ofText?_of_holds hproper (Json.ofTextAsWritten?_compact hreadable),
      ofText?_of_holds hproper (Json.ofTextAsWritten?_indented hreadable)⟩
  · intro environment wording now path session
    have hread := Host.run_readText environment wording now session path
    cases hcontent : session.files.readText path with
    | error fault =>
        rw [hcontent] at hread
        exact Host.run_bind_error (Host.run_attempt_error hread _) _
    | ok template =>
        rw [hcontent] at hread
        exact Host.run_bind_ok (Host.run_attempt_ok hread _) _

end Schema

/-- A bound that is not finite, a whole one with a point, one beyond 64 bits and
an unknown type. -/
example :
    let schema := Schema.ofTemplate
      ("\x7b#- @variable a: type=money, min=\"inf\", max=2.0 -#\x7d" ++
        "\x7b#- @variable b: min=1, max=9223372036854775808 -#\x7d")
    (schema.map Variable.withFiniteBounds).map
      (fun v => (v.type, v.min, v.max)) =
      [(.other "money", none, some (.float (.ofInt 2))),
        (.string, some (.integer 1),
          some (.float (.ofInt 9223372036854775808)))] := by
  decide +kernel

end Stencil

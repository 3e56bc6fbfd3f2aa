/-
Strict and lenient conversion differ in nothing but refusal.  Both walk over
the declarations in order, so the walks are compared from any inputs that the
earlier declarations have left.
-/
import Stencil.Rendering

namespace Stencil

namespace Variable

/-- The value given for a variable, if any, is converted to its type. -/
def Admits (raw : RawInputs) (v : Variable) : Prop :=
  ∀ value, raw.get? v.name = some value → ∃ typed, v.coerce value = .ok typed

/-- The failure that names a variable and the text of its value, for the types
that refuse values. -/
def refusal? (v : Variable) (value : Json) : Option CoercionError :=
  match v.type with
  | .integer => some (.invalidInteger v.name value.displayText)
  | .number => some (.invalidNumber v.name value.displayText)
  | .datetime => some (.invalidDatetime v.name value.displayText)
  | _ => none

theorem refusal?_of_coerce {v : Variable} {value : Json} {e : CoercionError}
    (h : v.coerce value = .error e) : v.refusal? value = some e := by
  unfold coerce at h
  unfold refusal?
  cases htype : v.type with
  | integer =>
      simp only [htype] at h
      cases hread : value.toInteger? with
      | some n => simp [hread] at h
      | none => simpa [hread] using h
  | number =>
      simp only [htype] at h
      cases hread : value.toNumber? with
      | some x => simp [hread] at h
      | none => simpa [hread] using h
  | datetime =>
      simp only [htype] at h
      cases hread : value.toMoment? with
      | some m => simp [hread] at h
      | none => simpa [hread] using h
  | string | boolean | array | select | other => simp [htype] at h

/-- What one declaration does in the two modes: it is admitted and has the same
value in both, or strict conversion fails for the value given. -/
theorem strictValue?_cases (raw : RawInputs) (v : Variable) :
    (v.Admits raw ∧ ∃ typed?, v.strictValue? raw = .ok typed? ∧
      ∀ now, v.lenientValue? now raw = typed?) ∨
    (∃ value e, raw.get? v.name = some value ∧ v.coerce value = .error e ∧
      v.strictValue? raw = .error e) := by
  unfold strictValue? lenientValue? Admits
  cases hget : raw.get? v.name with
  | none => exact Or.inl ⟨by simp, v.defaultValue?, rfl, fun now => rfl⟩
  | some value =>
      cases hcoerce : v.coerce value with
      | ok typed =>
          refine Or.inl
            ⟨?_, some typed, by simp [hcoerce, Except.map], by simp [hcoerce]⟩
          intro other hother
          obtain rfl := Option.some.inj hother
          exact ⟨typed, hcoerce⟩
      | error e =>
          exact Or.inr ⟨value, e, rfl, hcoerce, by simp [hcoerce, Except.map]⟩

end Variable

namespace Schema

/-- Some declaration fails with an error, and all earlier ones are admitted. -/
def FirstRefusal (schema : Schema) (raw : RawInputs) (e : CoercionError) :
    Prop :=
  ∃ before v after value, schema = before ++ v :: after ∧
    (∀ u ∈ before, u.Admits raw) ∧
    raw.get? v.name = some value ∧ v.coerce value = .error e

theorem FirstRefusal.here {schema : Schema} {raw : RawInputs} {v : Variable}
    {value : Json} {e : CoercionError} (hget : raw.get? v.name = some value)
    (hcoerce : v.coerce value = .error e) :
    FirstRefusal (v :: schema) raw e :=
  ⟨[], v, schema, value, rfl, by simp, hget, hcoerce⟩

theorem FirstRefusal.later {schema : Schema} {raw : RawInputs} {u : Variable}
    {e : CoercionError} (hadmits : u.Admits raw)
    (h : FirstRefusal schema raw e) : FirstRefusal (u :: schema) raw e := by
  obtain ⟨before, v, after, value, rfl, hbefore, hget, hcoerce⟩ := h
  refine ⟨u :: before, v, after, value, rfl, ?_, hget, hcoerce⟩
  simpa using ⟨hadmits, hbefore⟩

/-- A refusal is one of a declaration that is not admitted. -/
theorem FirstRefusal.not_admits {schema : Schema} {raw : RawInputs}
    {e : CoercionError} (h : FirstRefusal schema raw e) :
    ¬ ∀ v ∈ schema, v.Admits raw := by
  obtain ⟨before, v, after, value, rfl, -, hget, hcoerce⟩ := h
  intro hall
  obtain ⟨typed, htyped⟩ := hall v (by simp) value hget
  rw [hcoerce] at htyped
  cases htyped

theorem FirstRefusal.cons_cases {schema : Schema} {raw : RawInputs}
    {u : Variable} {e : CoercionError} (h : FirstRefusal (u :: schema) raw e) :
    (∃ value, raw.get? u.name = some value ∧ u.coerce value = .error e) ∨
    (u.Admits raw ∧ FirstRefusal schema raw e) := by
  obtain ⟨before, v, after, value, hsplit, hbefore, hget, hcoerce⟩ := h
  cases before with
  | nil =>
      obtain ⟨rfl, rfl⟩ := List.cons.inj hsplit
      exact Or.inl ⟨value, hget, hcoerce⟩
  | cons w before =>
      obtain ⟨rfl, rfl⟩ := List.cons.inj hsplit
      have hrest : ∀ x ∈ before, x.Admits raw := fun x hx =>
        hbefore x (by simp [hx])
      exact Or.inr ⟨hbefore u (by simp), before, v, after, value, rfl, hrest,
        hget, hcoerce⟩

/-- Strict conversion of the declarations that are left, from the inputs that
the earlier ones have given. -/
def strictFrom (raw : RawInputs) (inputs : Inputs) (schema : Schema) :
    Except CoercionError Inputs :=
  schema.foldlM (fun inputs v =>
    (v.strictValue? raw).map (store inputs v.name)) inputs

/-- Lenient conversion of the declarations that are left. -/
def lenientFrom (now : DateTime) (raw : RawInputs) (inputs : Inputs)
    (schema : Schema) : Inputs :=
  schema.foldl (fun inputs v =>
    store inputs v.name (v.lenientValue? now raw)) inputs

theorem strictFrom_cons_ok {raw : RawInputs} {v : Variable}
    {typed? : Option TypedValue} (h : v.strictValue? raw = .ok typed?)
    (inputs : Inputs) (schema : Schema) :
    strictFrom raw inputs (v :: schema) =
      strictFrom raw (store inputs v.name typed?) schema := by
  simp [strictFrom, List.foldlM_cons, h, Except.map, bind, Except.bind]

theorem strictFrom_cons_error {raw : RawInputs} {v : Variable}
    {e : CoercionError} (h : v.strictValue? raw = .error e) (inputs : Inputs)
    (schema : Schema) :
    strictFrom raw inputs (v :: schema) = .error e := by
  simp [strictFrom, List.foldlM_cons, h, Except.map, bind, Except.bind]

/-- The first refusal ends a strict run, whatever the later declarations are. -/
theorem strictFrom_of_firstRefusal {raw : RawInputs} {schema : Schema}
    {e : CoercionError} (h : FirstRefusal schema raw e) (inputs : Inputs) :
    strictFrom raw inputs schema = .error e := by
  induction schema generalizing inputs with
  | nil =>
      obtain ⟨before, v, after, value, hsplit, -⟩ := h
      simp at hsplit
  | cons u rest ih =>
      rcases u.strictValue?_cases raw with ⟨hadmits, typed?, hstrict, -⟩ |
        ⟨value, e', hget, hcoerce, hstrict⟩
      · rw [strictFrom_cons_ok hstrict]
        rcases h.cons_cases with ⟨value, hget, hcoerce⟩ | ⟨-, hrest⟩
        · obtain ⟨typed, htyped⟩ := hadmits value hget
          cases hcoerce.symm.trans htyped
        · exact ih hrest _
      · rw [strictFrom_cons_error hstrict]
        rcases h.cons_cases with ⟨other, hother, hfails⟩ | ⟨hadmits, -⟩
        · obtain rfl := Option.some.inj (hget.symm.trans hother)
          obtain rfl := Except.error.inj (hcoerce.symm.trans hfails)
          rfl
        · obtain ⟨typed, htyped⟩ := hadmits value hget
          cases hcoerce.symm.trans htyped

/-- A strict run ends like the lenient runs when all declarations are admitted,
and otherwise with the first refusal. -/
theorem strictFrom_cases (raw : RawInputs) (inputs : Inputs) (schema : Schema) :
    ((∀ v ∈ schema, v.Admits raw) ∧
      ∃ result, strictFrom raw inputs schema = .ok result ∧
      ∀ now, lenientFrom now raw inputs schema = result) ∨
    (∃ e, strictFrom raw inputs schema = .error e ∧
      FirstRefusal schema raw e) := by
  induction schema generalizing inputs with
  | nil => exact Or.inl ⟨by simp, inputs, rfl, fun now => rfl⟩
  | cons v rest ih =>
      rcases v.strictValue?_cases raw with
        ⟨hadmits, typed?, hstrict, hlenient⟩ |
        ⟨value, e, hget, hcoerce, hstrict⟩
      · rw [strictFrom_cons_ok hstrict]
        rcases ih (store inputs v.name typed?) with
          ⟨hall, result, hok, hnow⟩ | ⟨e, herror, hfirst⟩
        · refine Or.inl ⟨by simpa using ⟨hadmits, hall⟩, result, hok, ?_⟩
          intro now
          rw [← hnow now]
          simp [lenientFrom, hlenient now]
        · exact Or.inr ⟨e, herror, hfirst.later hadmits⟩
      · exact Or.inr ⟨e, strictFrom_cons_error hstrict inputs rest,
          .here hget hcoerce⟩

theorem coerceStrict_ok_iff (schema : Schema) (raw : RawInputs) :
    (∃ inputs, schema.coerceStrict raw = .ok inputs) ↔ ∀ v ∈ schema,
      v.Admits raw := by
  rcases strictFrom_cases raw [] schema with
    ⟨hall, result, hok, -⟩ | ⟨e, herror, hfirst⟩
  · exact ⟨fun _ => hall, fun _ => ⟨result, hok⟩⟩
  · constructor
    · rintro ⟨inputs, hok⟩
      cases hok.symm.trans herror
    · intro hall
      exact absurd hall hfirst.not_admits

theorem coerceStrict_error_iff (schema : Schema) (raw : RawInputs)
    (e : CoercionError) :
    schema.coerceStrict raw = .error e ↔ FirstRefusal schema raw e := by
  constructor
  · intro h
    rcases strictFrom_cases raw [] schema with
      ⟨-, result, hok, -⟩ | ⟨e', herror, hfirst⟩
    · cases hok.symm.trans h
    · obtain rfl := Except.error.inj (herror.symm.trans h)
      exact hfirst
  · intro h
    exact strictFrom_of_firstRefusal h []

theorem coerceLenient_of_coerceStrict {schema : Schema} {raw : RawInputs}
    {inputs : Inputs} (h : schema.coerceStrict raw = .ok inputs)
    (now : DateTime) :
    schema.coerceLenient now raw = inputs := by
  rcases strictFrom_cases raw [] schema with
    ⟨-, result, hok, hlenient⟩ | ⟨e, herror, -⟩
  · obtain rfl := Except.ok.inj (hok.symm.trans h)
    exact hlenient now
  · cases herror.symm.trans h

end Schema

theorem renderTemplate_coercion_iff (now : DateTime) (template : String)
    (raw : RawInputs) (e : CoercionError) :
    renderTemplate now .strict template raw = .error (.coercion e) ↔
      (Schema.ofTemplate template).coerceStrict raw = .error e := by
  unfold renderTemplate Schema.coerce
  cases hstrict : (Schema.ofTemplate template).coerceStrict raw with
  | error e' => simp
  | ok inputs =>
      cases hrender : Template.render template inputs <;> simp [hrender]

theorem renderTemplate_lenient_of_strict {now : DateTime} {template : String}
    {raw : RawInputs} {rendering : Rendering}
    (h : renderTemplate now .strict template raw = .ok rendering)
    (later : DateTime) :
    renderTemplate later .lenient template raw = .ok rendering := by
  unfold renderTemplate Schema.coerce at h ⊢
  cases hstrict : (Schema.ofTemplate template).coerceStrict raw with
  | error e => simp [hstrict] at h
  | ok inputs =>
      rw [hstrict] at h
      simp only [Schema.coerceLenient_of_coerceStrict hstrict later]
      exact h

/-- Strict conversion succeeds when all declarations are admitted, the ones that
a later one of their name overwrites included, and agrees then with the lenient
one.  Otherwise its error is that of the first declaration refused.  Rendering
hands the error on whatever the template text is. -/
theorem strict_refines_lenient :
    (∀ (schema : Schema) (raw : RawInputs),
      ((∃ inputs, schema.coerceStrict raw = .ok inputs) ↔
        ∀ v ∈ schema, ∀ value, raw.get? v.name = some value →
          ∃ typed, v.coerce value = .ok typed) ∧
      (∀ inputs, schema.coerceStrict raw = .ok inputs →
        ∀ now, schema.coerceLenient now raw = inputs) ∧
      (∀ e, schema.coerceStrict raw = .error e →
        ∃ before v after value, schema = before ++ v :: after ∧
          (∀ u ∈ before, u.Admits raw) ∧
          raw.get? v.name = some value ∧ v.coerce value = .error e ∧
          v.refusal? value = some e)) ∧
    (∀ (now : DateTime) (template : String) (raw : RawInputs),
      (∀ e, renderTemplate now .strict template raw = .error (.coercion e) ↔
        Schema.FirstRefusal (Schema.ofTemplate template) raw e) ∧
      (∀ rendering, renderTemplate now .strict template raw = .ok rendering →
        ∀ later,
          renderTemplate later .lenient template raw = .ok rendering)) := by
  constructor
  · intro schema raw
    refine ⟨schema.coerceStrict_ok_iff raw, ?_, ?_⟩
    · intro inputs h now
      exact Schema.coerceLenient_of_coerceStrict h now
    · intro e h
      obtain ⟨before, v, after, value, hsplit, hbefore, hget, hcoerce⟩ :=
        (schema.coerceStrict_error_iff raw e).1 h
      exact ⟨before, v, after, value, hsplit, hbefore, hget, hcoerce,
        Variable.refusal?_of_coerce hcoerce⟩
  · intro now template raw
    constructor
    · intro e
      rw [renderTemplate_coercion_iff, Schema.coerceStrict_error_iff]
    · intro rendering h later
      exact renderTemplate_lenient_of_strict h later

def overwrittenTemplate : String :=
  "\x7b#- @variable a: type=integer -#\x7d\x7b#- @variable a: type=string -#\x7d\x7b%"

def agreedSchema : Schema :=
  [{ name := "a" }, { name := "b", default := some "y" }]

/-- An integer that a later declaration of its name overwrites is refused all
the same, in a template that cannot be read. -/
theorem strict_refines_lenient_overwritten :
    renderTemplate default .strict overwrittenTemplate [("a", .string "x")] =
      .error (.coercion (.invalidInteger "a" "x")) ∧
    agreedSchema.coerceStrict [("a", .bool true)] =
      .ok [("a", .string "True"), ("b", .string "y")] ∧
    agreedSchema.coerceLenient default [("a", .bool true)] =
      [("a", .string "True"), ("b", .string "y")] := by
  have hschema : Schema.ofTemplate overwrittenTemplate =
      [{ name := "a", type := .integer }, { name := "a" }] := by decide +kernel
  have hstrict : agreedSchema.coerceStrict [("a", .bool true)] =
      .ok [("a", .string "True"), ("b", .string "y")] := rfl
  refine ⟨?_, hstrict, (strict_refines_lenient.1 _ _).2.1 _ hstrict default⟩
  refine ((strict_refines_lenient.2 default overwrittenTemplate _).1 _).2 ?_
  rw [hschema]
  exact Schema.FirstRefusal.here rfl rfl

end Stencil

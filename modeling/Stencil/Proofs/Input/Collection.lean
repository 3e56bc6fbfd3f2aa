/-
Collecting inputs without asking.  A declaration is supplied if it is optional,
its name is provided, or it has a default of its own; if all are, conversion
gives every required name a value, whichever of its declarations counts.
-/
import Stencil.Command.Run
import Stencil.Proofs.Input.Lenience
import Stencil.Proofs.Template.Substitution

namespace Stencil

open Template

/-- Nobody has to be asked for the variable. -/
def Variable.Supplied (provided : RawInputs) (v : Variable) : Prop :=
  v.required = true → provided.contains v.name = true ∨ v.HasDefault

theorem Variable.lacking_iff {provided : RawInputs} {v : Variable} :
    (!provided.contains v.name && v.needsInput) = true ↔
      ¬ v.Supplied provided := by
  simp only [needsInput, Supplied, Bool.and_eq_true, Bool.not_eq_true',
    Option.isNone_iff_eq_none, effectiveDefault_eq_none_iff, Classical.not_imp,
    not_or, Bool.not_eq_true]
  exact and_left_comm

namespace Schema

variable {schema : Schema} {provided raw : RawInputs} {inputs : Inputs}

/-- Either all declarations are supplied, or the first one that is not is
reported. -/
theorem collectBatch_cases (schema : Schema) (provided : RawInputs) :
    ((∀ v ∈ schema, v.Supplied provided) ∧
      schema.collectBatch provided = .ok provided) ∨
    (∃ before v after, schema = before ++ v :: after ∧
      (∀ u ∈ before, u.Supplied provided) ∧
      ¬ v.Supplied provided ∧
      schema.collectBatch provided = .error (.missingRequired v.name)) := by
  unfold collectBatch
  cases hfind : schema.find? fun v =>
    !provided.contains v.name && v.needsInput with
  | none =>
      refine Or.inl ⟨?_, rfl⟩
      intro v hv
      by_contra hlacking
      exact List.find?_eq_none.1 hfind v hv (Variable.lacking_iff.2 hlacking)
  | some v =>
      obtain ⟨hv, before, after, hschema, hbefore⟩ :=
        List.find?_eq_some_iff_append.1 hfind
      refine Or.inr ⟨before, v, after, hschema, ?_,
        Variable.lacking_iff.1 hv, rfl⟩
      intro u hu
      by_contra hlacking
      have hnone := hbefore u hu
      rw [Variable.lacking_iff.2 hlacking] at hnone
      contradiction

/-- What is collected without asking is what was provided. -/
theorem eq_of_collectBatch (h : schema.collectBatch provided = .ok raw) :
    raw = provided := by
  unfold collectBatch at h
  split at h
  next => cases h
  next => exact (Except.ok.inj h).symm

/-- A conversion that succeeds yields what the lenient one does. -/
theorem coerceLenient_of_coerce {now : DateTime} {mode : CoercionMode}
    (h : schema.coerce now mode raw = .ok inputs) :
    schema.coerceLenient now raw = inputs := by
  cases mode with
  | lenient => exact Except.ok.inj h
  | strict => exact coerceLenient_of_coerceStrict h now

/-- A required name that is supplied has a value, although another declaration
may overwrite the one that supplies it. -/
theorem contains_of_supplied {now : DateTime} {mode : CoercionMode}
    {v : Variable} (hcoerce : schema.coerce now mode raw = .ok inputs)
    (hv : v ∈ schema) (hrequired : v.required = true)
    (hsupplied : v.Supplied raw) :
    inputs.contains v.name = true := by
  rw [← coerceLenient_of_coerce hcoerce, coerceLenient_contains_iff]
  refine ⟨⟨v, hv, rfl⟩, ?_⟩
  rcases hsupplied hrequired with hgiven | hdefault
  · exact Or.inl hgiven
  · exact Or.inr ⟨v, hv, rfl, hdefault⟩

end Schema

namespace Template

/-- The name stands for one of the inputs where a template is evaluated, and can
be printed there. -/
def IsPrintable (inputs : Inputs) (name : String) : Prop :=
  ∃ typed, inputs.get? name = some typed ∧
    (Machine.start (Machine.namesOf inputs)).lookup? name =
      some (Value.ofTyped typed) ∧
    (Value.ofTyped typed).isUndefined = false ∧
    ∀ call line,
      (Evaluation.node call (.output (.reference name line) line)).run
        (Machine.start (Machine.namesOf inputs)) =
      .ok ((Value.ofTyped typed).printed,
        Machine.start (Machine.namesOf inputs))

theorem isPrintable_of_contains {inputs : Inputs} {name : String}
    (h : inputs.contains name = true) : IsPrintable inputs name := by
  obtain ⟨typed, htyped⟩ := Option.isSome_iff_exists.1 h
  have hlookup : (Machine.start (Machine.namesOf inputs)).lookup? name =
      some (Value.ofTyped typed) := by
    rw [Machine.lookup?_start, htyped, Option.map_some, Option.some_or]
  refine ⟨typed, htyped, hlookup, by cases typed <;> rfl, fun call line => ?_⟩
  rw [Evaluation.run_output_reference, hlookup, Value.ofOption, print_ofTyped]
  rfl

end Template

namespace Host

/-- In a batch, or without a terminal, nobody is asked. -/
theorem collect_unasked (environment : Environment) (wording : Wording)
    (now : DateTime) (schema : Schema) (provided : RawInputs) {batch : Bool}
    {session : Session} (h : batch = true ∨ session.keys = none) :
    ((Session.host environment wording now).collect batch schema
      provided).run.run session =
      ((schema.collectBatch provided).mapError .collection, session) := by
  have hasks : (!batch && session.keys.isSome) = false := by
    rcases h with rfl | hkeys
    · rfl
    · rw [hkeys, Option.isSome_none, Bool.and_false]
  -- The terminal is looked at in either case, which changes nothing.
  change (if (!batch && session.keys.isSome) = true then
      schema.collectAsking
        (Session.host environment wording now).askFor provided
    else attempt (pure (schema.collectBatch provided)) .collection).run.run
      session = _
  rw [hasks]
  cases schema.collectBatch provided <;> rfl

end Host

/-- Collecting inputs without asking.  It succeeds if all declarations are
supplied, and names the first one that is not otherwise.  What it returns is
what was provided; of that, every conversion makes inputs in which all required
names have a value.  In a batch, or without a terminal, inputs are collected
so. -/
theorem collectBatch_guarantees (schema : Schema) (provided : RawInputs) :
    ((∃ raw, schema.collectBatch provided = .ok raw) ↔ ∀ v ∈ schema,
      v.Supplied provided) ∧
    (∀ e, schema.collectBatch provided = .error e →
      ∃ before v after, schema = before ++ v :: after ∧
        (∀ u ∈ before, u.Supplied provided) ∧
        ¬ v.Supplied provided ∧ e = .missingRequired v.name) ∧
    (∀ raw, schema.collectBatch provided = .ok raw →
      raw = provided ∧
      ∀ now mode inputs, schema.coerce now mode raw = .ok inputs →
        ∀ v ∈ schema, v.required = true → IsPrintable inputs v.name) ∧
    (∀ environment wording now batch (session : Session), batch = true ∨
      session.keys = none →
      ((Session.host environment wording now).collect batch schema
        provided).run.run session =
        ((schema.collectBatch provided).mapError .collection, session)) := by
  have hunasked : ∀ environment wording now batch (session : Session),
      batch = true ∨ session.keys = none →
      ((Session.host environment wording now).collect batch schema
        provided).run.run session =
        ((schema.collectBatch provided).mapError .collection, session) := by
    intro environment wording now batch session h
    exact Host.collect_unasked environment wording now schema provided h
  rcases schema.collectBatch_cases provided with
    ⟨hall, hok⟩ | ⟨before, v, after, hschema, hbefore, hlacking, herror⟩
  · refine ⟨⟨fun _ => hall, fun _ => ⟨provided, hok⟩⟩, ?_, ?_, hunasked⟩
    · intro e herror
      cases hok.symm.trans herror
    · intro raw hraw
      obtain rfl := Except.ok.inj (hok.symm.trans hraw)
      refine ⟨rfl, ?_⟩
      intro now mode inputs hcoerce v hv hrequired
      apply isPrintable_of_contains
      exact Schema.contains_of_supplied hcoerce hv hrequired (hall v hv)
  · refine ⟨⟨?_, ?_⟩, ?_, ?_, hunasked⟩
    · rintro ⟨raw, hok⟩
      cases herror.symm.trans hok
    · intro hall
      exact absurd (hall v (by simp [hschema])) hlacking
    · intro e he
      obtain rfl := Except.error.inj (herror.symm.trans he)
      exact ⟨before, v, after, hschema, hbefore, hlacking, rfl⟩
    · intro raw hok
      cases herror.symm.trans hok

/-- The default of one declaration and a later type for the same name. -/
def titleSchema : Schema :=
  [{ name := "a", required := true, default := some "x" },
    { name := "a", type := .integer }, { name := "b", required := true }]

/-- The default stands in for the name that is not provided; the name without a
default has to be, and another declaration's default is of no use to a required
one. -/
theorem collectBatch_titleSchema :
    titleSchema.collectBatch [] = .error (.missingRequired "b") ∧
      Schema.collectBatch [{ name := "a", default := some "x" },
        { name := "a", required := true, default := some "" }] [] =
          .error (.missingRequired "a") ∧
      IsPrintable (titleSchema.coerceLenient default [("b", .null)]) "a" ∧
      IsPrintable (titleSchema.coerceLenient default [("b", .null)]) "b" := by
  have hok : titleSchema.collectBatch [("b", .null)] = .ok [("b", .null)] := rfl
  obtain ⟨-, -, hguarantee, -⟩ :=
    collectBatch_guarantees titleSchema [("b", .null)]
  obtain ⟨-, hprintable⟩ := hguarantee _ hok
  have hrequired := hprintable default .lenient _ rfl
  refine ⟨rfl, rfl, ?_, ?_⟩
  · exact hrequired { name := "a", required := true, default := some "x" }
      (by simp [titleSchema]) rfl
  · exact hrequired { name := "b", required := true }
      (by simp [titleSchema]) rfl

end Stencil

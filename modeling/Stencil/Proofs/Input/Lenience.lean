/-
What lenient conversion yields, name by name.  A run stores one value for each
declaration that has one, so the value of a name is that of its last
declaration with a value; which declarations have one is decided by the raw
value of that name alone.
-/
import Stencil.Proofs.Input.Strictness

namespace Stencil

namespace TypedValue

/-- The values that belong to a type.  Choices and unknown types have texts. -/
inductive IsOf : VarType → TypedValue → Prop where
  | string (s : String) : IsOf .string (string s)
  | select (s : String) : IsOf .select (string s)
  | other (token s : String) : IsOf (.other token) (string s)
  | integer (n : Int) : IsOf .integer (integer n)
  | number (x : Double) : IsOf .number (number x)
  | boolean (b : Bool) : IsOf .boolean (boolean b)
  | datetime (m : Moment) : IsOf .datetime (datetime m)
  | array (items : List Json) : IsOf .array (array items)

end TypedValue

namespace Variable

/-- The declaration gives a default that is not empty. -/
def HasDefault (v : Variable) : Prop :=
  ∃ text, v.default = some text ∧ text ≠ ""

theorem effectiveDefault_eq_some_iff {v : Variable} {text : String} :
    v.effectiveDefault = some text ↔ v.default = some text ∧ text ≠ "" := by
  simp [effectiveDefault, Option.filter_eq_some_iff]

theorem effectiveDefault_eq_none_iff {v : Variable} :
    v.effectiveDefault = none ↔ ¬ v.HasDefault := by
  rw [Option.eq_none_iff_forall_ne_some, HasDefault, not_exists]
  exact forall_congr' fun text => not_congr effectiveDefault_eq_some_iff

/-- What a value given for a variable turns into, its stand-in included. -/
def Yields (now : DateTime) (v : Variable) (value : Json) (typed : TypedValue) :
    Prop :=
  v.coerce value = .ok typed ∨ ∃ e, v.coerce value = .error e ∧
    typed = e.standIn now

theorem Yields.isOf {now : DateTime} {v : Variable} {value : Json}
    {typed : TypedValue} (h : v.Yields now value typed) :
    typed.IsOf v.type := by
  unfold Yields coerce at h
  cases htype : v.type with
  | string | select | other | boolean | array =>
      simp only [htype, Except.ok.injEq, reduceCtorEq, false_and, exists_false,
        or_false] at h
      subst h
      constructor
  | integer =>
      simp only [htype] at h
      cases hread : value.toInteger? with
      | some n =>
          obtain rfl : TypedValue.integer n = typed := by simpa [hread] using h
          exact .integer n
      | none =>
          obtain rfl : typed = .integer 0 := by
            simpa [hread, CoercionError.standIn] using h
          exact .integer 0
  | number =>
      simp only [htype] at h
      cases hread : value.toNumber? with
      | some x =>
          obtain rfl : TypedValue.number x = typed := by simpa [hread] using h
          exact .number x
      | none =>
          obtain rfl : typed = .number (.zero false) := by
            simpa [hread, CoercionError.standIn] using h
          exact .number _
  | datetime =>
      simp only [htype] at h
      cases hread : value.toMoment? with
      | some m =>
          obtain rfl : TypedValue.datetime m = typed := by simpa [hread] using h
          exact .datetime m
      | none =>
          obtain rfl : typed = .datetime (.naive now) := by
            simpa [hread, CoercionError.standIn] using h
          exact .datetime _

theorem lenientValue?_of_given (now : DateTime) {raw : RawInputs} {v : Variable}
    {value : Json} (h : raw.get? v.name = some value) :
    ∃ typed, v.lenientValue? now raw = some typed ∧
      v.Yields now value typed := by
  cases hcoerce : v.coerce value with
  | ok typed =>
      exact ⟨typed, by simp [lenientValue?, h, hcoerce], Or.inl hcoerce⟩
  | error e =>
      exact ⟨e.standIn now, by simp [lenientValue?, h, hcoerce],
        Or.inr ⟨e, hcoerce, rfl⟩⟩

theorem lenientValue?_of_missing {now : DateTime} {raw : RawInputs}
    {v : Variable} (h : raw.get? v.name = none) :
    v.lenientValue? now raw = v.defaultValue? := by
  rw [lenientValue?, h]

theorem lenientValue?_congr (now : DateTime) {raw other : RawInputs}
    {v : Variable} (h : other.get? v.name = raw.get? v.name) :
    v.lenientValue? now other = v.lenientValue? now raw := by
  rw [lenientValue?, h, lenientValue?]

/-- A declaration has a value if its name has one or it gives a default. -/
theorem isSome_lenientValue?_iff {now : DateTime} {raw : RawInputs}
    {v : Variable} :
    (v.lenientValue? now raw).isSome = true ↔ raw.contains v.name = true ∨
      v.HasDefault := by
  unfold Entries.contains
  cases hget : raw.get? v.name with
  | some value =>
      obtain ⟨typed, htyped, -⟩ := lenientValue?_of_given now hget
      simp [htyped]
  | none =>
      rw [lenientValue?_of_missing hget, defaultValue?, Option.isSome_map,
        ← Option.ne_none_iff_isSome, ne_eq, effectiveDefault_eq_none_iff,
        Classical.not_not]
      simp

end Variable

namespace Schema

variable {now : DateTime} {raw other : RawInputs} {schema : Schema}
  {inputs : Inputs} {name : String} {v : Variable}

/-- The last declaration with a property. -/
def IsLast (p : Variable → Prop) (schema : Schema) (v : Variable) : Prop :=
  p v ∧ ∃ before after, schema = before ++ v :: after ∧ ∀ u ∈ after, ¬ p u

theorem exists_isLast {p : Variable → Prop} (h : ∃ u ∈ schema, p u) :
    ∃ u, IsLast p schema u := by
  induction schema with
  | nil => simp at h
  | cons w rest ih =>
      by_cases hrest : ∃ u ∈ rest, p u
      · obtain ⟨u, hp, before, after, rfl, hafter⟩ := ih hrest
        exact ⟨u, hp, w :: before, after, rfl, hafter⟩
      · have hp : p w := by
          obtain ⟨u, hu, hp⟩ := h
          rcases List.mem_cons.1 hu with rfl | hu
          · exact hp
          · exact absurd ⟨u, hu, hp⟩ hrest
        exact ⟨w, hp, [], rest, rfl, fun u hu hpu => hrest ⟨u, hu, hpu⟩⟩

/-- On the declarations of a schema only the extent of a property counts. -/
theorem IsLast.congr {p q : Variable → Prop} (h : IsLast p schema v)
    (hpq : ∀ u ∈ schema, p u ↔ q u) : IsLast q schema v := by
  obtain ⟨hp, before, after, rfl, hafter⟩ := h
  refine ⟨(hpq v (by simp)).1 hp, before, after, rfl, fun u hu hq => ?_⟩
  exact hafter u hu ((hpq u (by simp [hu])).2 hq)

theorem get?_store (inputs : Inputs) (name key : String)
    (typed? : Option TypedValue) :
    Entries.get? key (store inputs name typed?) =
      if key = name then typed?.or (Entries.get? key inputs)
      else Entries.get? key inputs := by
  cases typed? with
  | none => simp [store]
  | some typed => simp [store, Entries.get?_insert]

theorem lenientFrom_append (before after : Schema) :
    lenientFrom now raw inputs (before ++ after) =
      lenientFrom now raw (lenientFrom now raw inputs before) after :=
  List.foldl_append

/-- Declarations without a value leave what is stored. -/
theorem get?_lenientFrom_of_none
    (h : ∀ u ∈ schema, u.name = name → u.lenientValue? now raw = none) :
    Entries.get? name (lenientFrom now raw inputs schema) =
      Entries.get? name inputs := by
  induction schema generalizing inputs with
  | nil => rfl
  | cons v rest ih =>
      have hrest : ∀ u ∈ rest, u.name = name → u.lenientValue? now raw = none :=
        fun u hu => h u (List.mem_cons_of_mem v hu)
      calc Entries.get? name (lenientFrom now raw inputs (v :: rest))
        _ = Entries.get? name (store inputs v.name (v.lenientValue? now raw)) :=
            ih hrest
        _ = Entries.get? name inputs := by
            rw [get?_store]
            split
            next heq => rw [h v List.mem_cons_self heq.symm, Option.none_or]
            next => rfl

/-- The last declaration with a value leaves its own. -/
theorem get?_lenientFrom_of_isLast
    (h : IsLast (fun u => u.name = v.name ∧
      (u.lenientValue? now raw).isSome = true) schema v) :
    Entries.get? v.name (lenientFrom now raw inputs schema) =
      v.lenientValue? now raw := by
  obtain ⟨⟨-, hsome⟩, before, after, rfl, hafter⟩ := h
  have hnone : ∀ u ∈ after, u.name = v.name →
      u.lenientValue? now raw = none := by
    intro u hu hname
    simpa [hname] using hafter u hu
  calc Entries.get? v.name (lenientFrom now raw inputs (before ++ v :: after))
    _ = Entries.get? v.name (store (lenientFrom now raw inputs before) v.name
          (v.lenientValue? now raw)) := by
        rw [lenientFrom_append]
        exact get?_lenientFrom_of_none hnone
    _ = v.lenientValue? now raw := by
        obtain ⟨typed, htyped⟩ := Option.isSome_iff_exists.1 hsome
        rw [get?_store, if_pos rfl, htyped, Option.some_or]

theorem isSome_get?_lenientFrom_iff :
    (Entries.get? name (lenientFrom now raw [] schema)).isSome = true ↔
      ∃ v ∈ schema, v.name = name ∧
        (v.lenientValue? now raw).isSome = true := by
  constructor
  · intro h
    refine Classical.byContradiction fun hnone => ?_
    have hmissing : ∀ u ∈ schema, u.name = name →
        u.lenientValue? now raw = none := by
      intro u hu hname
      rw [← Option.not_isSome_iff_eq_none]
      exact fun hsome => hnone ⟨u, hu, hname, hsome⟩
    rw [get?_lenientFrom_of_none hmissing] at h
    cases h
  · intro h
    obtain ⟨v, ⟨hname, hsome⟩, hlast⟩ := exists_isLast h
    subst hname
    rw [get?_lenientFrom_of_isLast ⟨⟨rfl, hsome⟩, hlast⟩]
    exact hsome

/-- A run sees its raw inputs only under the names that it declares. -/
theorem lenientFrom_congr
    (h : ∀ v ∈ schema, other.get? v.name = raw.get? v.name) :
    lenientFrom now other inputs schema =
      lenientFrom now raw inputs schema := by
  induction schema generalizing inputs with
  | nil => rfl
  | cons v rest ih =>
      have hvalue := Variable.lenientValue?_congr now (h v List.mem_cons_self)
      have hrest : ∀ u ∈ rest, other.get? u.name = raw.get? u.name :=
        fun u hu => h u (List.mem_cons_of_mem v hu)
      calc lenientFrom now other inputs (v :: rest)
        _ = lenientFrom now other
            (store inputs v.name (v.lenientValue? now raw)) rest := by
            rw [← hvalue]
            rfl
        _ = lenientFrom now raw inputs (v :: rest) := ih hrest

/-- The value of a name depends on the raw value of that name only. -/
theorem get?_lenientFrom_congr {stored : Inputs}
    (h : other.get? name = raw.get? name)
    (hstored : Entries.get? name stored = Entries.get? name inputs) :
    Entries.get? name (lenientFrom now other stored schema) =
      Entries.get? name (lenientFrom now raw inputs schema) := by
  induction schema generalizing stored inputs with
  | nil => exact hstored
  | cons v rest ih =>
      refine ih ?_
      rw [get?_store, get?_store]
      split
      next heq =>
          rw [Variable.lenientValue?_congr now (heq ▸ h), hstored]
      next => exact hstored

theorem coerceLenient_contains_iff :
    (schema.coerceLenient now raw).contains name = true ↔
      (∃ v ∈ schema, v.name = name) ∧
        (raw.contains name = true ∨ ∃ v ∈ schema, v.name = name ∧
          v.HasDefault) := by
  rw [Entries.contains, coerceLenient, ← lenientFrom,
    isSome_get?_lenientFrom_iff]
  constructor
  · rintro ⟨v, hv, rfl, hsome⟩
    rcases Variable.isSome_lenientValue?_iff.1 hsome with hgiven | hdefault
    · exact ⟨⟨v, hv, rfl⟩, Or.inl hgiven⟩
    · exact ⟨⟨v, hv, rfl⟩, Or.inr ⟨v, hv, rfl, hdefault⟩⟩
  · rintro ⟨⟨v, hv, rfl⟩, hgiven | ⟨u, hu, hname, hdefault⟩⟩
    · exact ⟨v, hv, rfl, Variable.isSome_lenientValue?_iff.2 (Or.inl hgiven)⟩
    · exact ⟨u, hu, hname,
        Variable.isSome_lenientValue?_iff.2 (Or.inr hdefault)⟩

/-- All declarations of a given name have a value, so the last one counts. -/
theorem get?_coerceLenient_of_given {value : Json}
    (hlast : IsLast (fun u => u.name = v.name) schema v)
    (hvalue : raw.get? v.name = some value) :
    ∃ typed, (schema.coerceLenient now raw).get? v.name = some typed ∧
      v.Yields now value typed := by
  obtain ⟨typed, htyped, hyields⟩ := Variable.lenientValue?_of_given now hvalue
  refine ⟨typed, ?_, hyields⟩
  rw [← htyped]
  refine get?_lenientFrom_of_isLast (hlast.congr fun u hu => ?_)
  constructor
  · intro hname
    refine ⟨hname, Variable.isSome_lenientValue?_iff.2 (Or.inl ?_)⟩
    rw [hname, Entries.contains, hvalue, Option.isSome_some]
  · exact And.left

/-- Of a name that is not given only declarations with a default have a
value. -/
theorem get?_coerceLenient_of_missing {text : String}
    (hlast : IsLast (fun u => u.name = v.name ∧ u.HasDefault) schema v)
    (htext : v.effectiveDefault = some text)
    (hmissing : raw.get? v.name = none) :
    (schema.coerceLenient now raw).get? v.name = some (.string text) := by
  have hvalue : v.lenientValue? now raw = some (.string text) := by
    rw [Variable.lenientValue?_of_missing hmissing, Variable.defaultValue?,
      htext, Option.map_some]
  rw [← hvalue]
  refine get?_lenientFrom_of_isLast
    (hlast.congr fun u hu => and_congr_right fun hname => ?_)
  rw [Variable.isSome_lenientValue?_iff, hname, Entries.contains, hmissing]
  simp

/-- Lenient conversion name by name.  A name gets a value if it is declared and
has a raw value or some default.  A raw value is converted by the last
declaration of its name, to a value of that declaration's type; without one the
last default stands as it is.  Hence a change of the raw value of one name is
seen in that name only. -/
theorem coerceLenient_by_name (now : DateTime) (schema : Schema)
    (raw : RawInputs) :
    (∀ name, (schema.coerceLenient now raw).contains name = true ↔
      (∃ v ∈ schema, v.name = name) ∧
        (raw.contains name = true ∨ ∃ v ∈ schema, v.name = name ∧
          v.HasDefault)) ∧
    (∀ v value, IsLast (fun u => u.name = v.name) schema v →
      raw.get? v.name = some value →
      ∃ typed, (schema.coerceLenient now raw).get? v.name = some typed ∧
        v.Yields now value typed ∧ typed.IsOf v.type) ∧
    (∀ v, IsLast (fun u => u.name = v.name ∧ u.HasDefault) schema v →
      raw.get? v.name = none →
      ∃ text, v.default = some text ∧
        (schema.coerceLenient now raw).get? v.name = some (.string text)) ∧
    (∀ other : RawInputs, (∀ v ∈ schema, other.get? v.name = raw.get? v.name) →
      schema.coerceLenient now other = schema.coerceLenient now raw) ∧
    (∀ (other : RawInputs) changed,
      (∀ name, name ≠ changed → other.get? name = raw.get? name) →
      ∀ name, name ≠ changed →
        (schema.coerceLenient now other).get? name =
          (schema.coerceLenient now raw).get? name) := by
  refine ⟨?_, ?_, ?_, ?_, ?_⟩
  · intro name
    exact coerceLenient_contains_iff
  · intro v value hlast hvalue
    obtain ⟨typed, htyped, hyields⟩ := get?_coerceLenient_of_given hlast hvalue
    exact ⟨typed, htyped, hyields, hyields.isOf⟩
  · intro v hlast hmissing
    have ⟨⟨_, text, htext, hne⟩, _⟩ := hlast
    have heffective := Variable.effectiveDefault_eq_some_iff.2 ⟨htext, hne⟩
    exact ⟨text, htext, get?_coerceLenient_of_missing hlast heffective hmissing⟩
  · intro other h
    exact lenientFrom_congr h
  · intro other changed h name hname
    exact get?_lenientFrom_congr (h name hname) rfl

/-- Two declarations of each name; an empty default does not count. -/
def repeatedSchema : Schema :=
  [{ name := "a", type := .boolean, default := some "x" },
    { name := "b", default := some "y" }, { name := "a", type := .integer },
    { name := "b", type := .number, default := some "" }]

/-- A text that is no integer is replaced by zero, as the last declaration of
its name asks for; a default stands as a text although a later type is another,
and a raw value of a name that is not declared changes nothing. -/
theorem coerceLenient_repeatedSchema :
    (repeatedSchema.coerceLenient default [("a", .string "1x")]).get? "a" =
      some (.integer 0) ∧
      (repeatedSchema.coerceLenient default [("a", .string "1x")]).get? "b" =
        some (.string "y") ∧
      repeatedSchema.coerceLenient default [("a", .string "1x"), ("c", .null)] =
        repeatedSchema.coerceLenient default [("a", .string "1x")] := by
  obtain ⟨-, hgiven, hmissing, hcongr, -⟩ :=
    coerceLenient_by_name default repeatedSchema [("a", .string "1x")]
  refine ⟨?_, ?_, ?_⟩
  · have hlast : IsLast (fun u => u.name = "a") repeatedSchema
        { name := "a", type := .integer } :=
      ⟨rfl, repeatedSchema.take 2, repeatedSchema.drop 3,
        rfl, by simp [repeatedSchema]⟩
    have hcoerce : ({ name := "a", type := .integer } : Variable).coerce
        (.string "1x") =
        .error (.invalidInteger "a" "1x") := rfl
    obtain ⟨typed, htyped, hyields, -⟩ := hgiven _ (.string "1x") hlast rfl
    rcases hyields with hok | ⟨e, herror, rfl⟩
    · cases hok.symm.trans hcoerce
    · obtain rfl := Except.error.inj (herror.symm.trans hcoerce)
      exact htyped
  · have hlast : IsLast (fun u => u.name = "b" ∧ u.HasDefault) repeatedSchema
        { name := "b", default := some "y" } :=
      ⟨⟨rfl, "y", rfl, by decide⟩, repeatedSchema.take 1,
        repeatedSchema.drop 2, rfl,
        by simp [repeatedSchema, Variable.HasDefault]⟩
    obtain ⟨text, htext, hvalue⟩ := hmissing _ hlast rfl
    obtain rfl := Option.some.inj htext
    exact hvalue
  · exact hcongr [("a", .string "1x"), ("c", .null)]
      (by simp [repeatedSchema, Entries.get?])

end Schema

end Stencil

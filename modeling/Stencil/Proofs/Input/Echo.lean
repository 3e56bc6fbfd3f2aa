/-
Converted inputs that are echoed as JSON convert to themselves.  What a type
yields is written in a form that the same type reads back, and a run over the
declarations sees its raw inputs only through the values of each declaration.
-/
import Stencil.Command.Run
import Stencil.Proofs.Input.Strictness
import Stencil.Proofs.Json.Readable
import Stencil.Proofs.Time.ReadBack

namespace Stencil

namespace Json

theorem toInteger?_inInt64 {value : Json} {n : Int}
    (h : value.toInteger? = some n) :
    Numeral.inInt64 n = true := by
  cases value with
  | null => contradiction
  | bool b =>
      obtain rfl := Option.some.inj h
      cases b with
      | true => rfl
      | false => rfl
  | integer k =>
      rw [toInteger?] at h
      split at h
      next hword =>
          obtain rfl := Option.some.inj h
          exact hword
      next => exact (Option.filter_eq_some_iff.1 h).2
  | number x => exact (Option.filter_eq_some_iff.1 h).2
  | string s => exact (Option.filter_eq_some_iff.1 h).2
  | array items => contradiction
  | object fields => contradiction

theorem toNumber?_canonical {depth : Nat} {value : Json} {x : Double}
    (hvalue : Readable depth value) (h : value.toNumber? = some x) :
    x.Canonical := by
  cases hvalue with
  | null => contradiction
  | bool _ b =>
      obtain rfl := Option.some.inj h
      exact Double.ofInt_canonical _
  | integer _ _ =>
      obtain rfl := Option.some.inj h
      exact Double.ofInt_canonical _
  | number _ hcanonical _ =>
      obtain rfl := Option.some.inj h
      exact hcanonical
  | string _ s => exact Numeral.readDouble?_canonical h
  | array _ => contradiction
  | object _ => contradiction

/-- Texts make up every list of items that is not given as such. -/
theorem toItems_cases (value : Json) :
    value = array value.toItems ∨ ∃ texts : List String,
      value.toItems = texts.map string := by
  cases value with
  | array items => exact Or.inl rfl
  | string s => exact Or.inr ⟨itemsOfText s, rfl⟩
  | null => exact Or.inr ⟨[_], rfl⟩
  | bool b => exact Or.inr ⟨[_], rfl⟩
  | integer n => exact Or.inr ⟨[_], rfl⟩
  | number x => exact Or.inr ⟨[_], rfl⟩
  | object fields => exact Or.inr ⟨[_], rfl⟩

theorem readable_texts (depth : Nat) (texts : List String) :
    Readable (depth + 1) (array (texts.map string)) := by
  refine .array fun item hitem => ?_
  obtain ⟨s, -, rfl⟩ := List.mem_map.1 hitem
  exact .string depth s

theorem canonical_texts (texts : List String) :
    (array (texts.map string)).canonical = array (texts.map string) := by
  rw [canonical, canonicalItems_eq_map, List.map_map]
  rfl

/-- How each type reads a value. -/
inductive ReadAs (value : Json) : VarType → TypedValue → Prop where
  | string : ReadAs value .string (.string value.displayText)
  | select : ReadAs value .select (.string value.displayText)
  | other (token : String) : ReadAs value (.other token)
      (.string value.displayText)
  | boolean : ReadAs value .boolean (.boolean value.isTruthy)
  | array : ReadAs value .array (.array value.toItems)
  | integer {n : Int} (h : value.toInteger? = some n) :
      ReadAs value .integer (.integer n)
  | number {x : Double} (h : value.toNumber? = some x) :
      ReadAs value .number (.number x)
  | datetime {m : Moment} (h : value.toMoment? = some m) :
      ReadAs value .datetime (.datetime m)

end Json

namespace TypedValue

/-- JSON has no text for a number that is not finite. -/
def Expressible (t : TypedValue) : Prop :=
  ∀ x, t = number x → x.isFinite = true

/-- What conversion to a type yields, from values nested at most `depth`
deep. -/
inductive Fits (depth : Nat) : VarType → TypedValue → Prop where
  | string (s : String) : Fits depth .string (string s)
  | select (s : String) : Fits depth .select (string s)
  | other (token s : String) : Fits depth (.other token) (string s)
  | boolean (b : Bool) : Fits depth .boolean (boolean b)
  | integer {n : Int} (h : Numeral.inInt64 n = true) :
      Fits depth .integer (integer n)
  | number {x : Double} (h : x.Canonical) : Fits depth .number (number x)
  | datetime {s : String} {m : Moment} (h : Moment.ofText? s = some m) :
      Fits depth .datetime (datetime m)
  | array {items : List Json} (hreadable : Json.Readable depth (.array items))
      (hcanonical : (Json.array items).canonical = .array items) :
        Fits depth .array (array items)

/-- What is yielded has a text that is read back. -/
theorem Fits.readable {depth : Nat} {type : VarType} {t : TypedValue}
    (h : Fits depth type t) (ht : t.Expressible) :
    Json.Readable depth t.toJson ∧ t.toJson.canonical = t.toJson := by
  cases h with
  | string s => exact ⟨.string depth s, rfl⟩
  | select s => exact ⟨.string depth s, rfl⟩
  | other token s => exact ⟨.string depth s, rfl⟩
  | boolean b => exact ⟨.bool depth b, rfl⟩
  | integer hn => exact ⟨.integer depth (Numeral.inWord64_of_inInt64 hn), rfl⟩
  | number hx =>
      have hfinite := ht _ rfl
      rw [toJson, if_pos hfinite]
      exact ⟨.number depth hx hfinite, rfl⟩
  | datetime _ => exact ⟨.string depth _, rfl⟩
  | array hreadable hcanonical => exact ⟨hreadable, hcanonical⟩

end TypedValue

namespace Variable

open TypedValue (Fits)

/-- Conversion reads a value as the type of its variable does. -/
theorem coerce_ok_iff {v : Variable} {value : Json} {t : TypedValue} :
    v.coerce value = .ok t ↔ value.ReadAs v.type t := by
  unfold coerce
  generalize v.type = type
  constructor
  · intro h
    cases type with
    | string =>
        obtain rfl := Except.ok.inj h
        exact .string
    | select =>
        obtain rfl := Except.ok.inj h
        exact .select
    | other token =>
        obtain rfl := Except.ok.inj h
        exact .other token
    | boolean =>
        obtain rfl := Except.ok.inj h
        exact .boolean
    | array =>
        obtain rfl := Except.ok.inj h
        exact .array
    | integer =>
        cases hread : value.toInteger? with
        | none => simp [hread] at h
        | some n =>
            obtain rfl : TypedValue.integer n = t := by simpa [hread] using h
            exact .integer hread
    | number =>
        cases hread : value.toNumber? with
        | none => simp [hread] at h
        | some x =>
            obtain rfl : TypedValue.number x = t := by simpa [hread] using h
            exact .number hread
    | datetime =>
        cases hread : value.toMoment? with
        | none => simp [hread] at h
        | some m =>
            obtain rfl : TypedValue.datetime m = t := by simpa [hread] using h
            exact .datetime hread
  · intro h
    cases h with
    | string | select | other | boolean | array => rfl
    | integer hread => simp [hread]
    | number hread => simp [hread]
    | datetime hread => simp [hread]

theorem coerce_fits {v : Variable} {depth : Nat} {value : Json} {t : TypedValue}
    (hdepth : 0 < depth) (hvalue : Json.Readable depth value)
    (hcanonical : value.canonical = value) (h : v.coerce value = .ok t) :
    Fits depth v.type t := by
  obtain ⟨inner, rfl⟩ : ∃ n, depth = n + 1 := ⟨depth - 1, by omega⟩
  replace h := coerce_ok_iff.1 h
  generalize v.type = type at h
  cases h with
  | string => exact .string _
  | select => exact .select _
  | other token => exact .other token _
  | boolean => exact .boolean _
  | integer hread => exact .integer (Json.toInteger?_inInt64 hread)
  | number hread => exact .number (Json.toNumber?_canonical hvalue hread)
  | datetime hread =>
      cases value with
      | string s => exact .datetime hread
      | null | bool | integer | number | array | object => contradiction
  | array =>
      rcases value.toItems_cases with hitems | ⟨texts, htexts⟩
      · rw [hitems] at hvalue hcanonical
        exact .array hvalue hcanonical
      · rw [htexts]
        exact .array (Json.readable_texts inner texts)
          (Json.canonical_texts texts)

/-- The type that has yielded a value yields it again from its JSON form. -/
theorem coerce_toJson {v : Variable} {depth : Nat} {t : TypedValue}
    (h : Fits depth v.type t) (ht : t.Expressible) :
    v.coerce t.toJson = .ok t := by
  rw [coerce_ok_iff]
  generalize v.type = type at h
  cases h with
  | string s => exact .string
  | select s => exact .select
  | other token s => exact .other token
  | boolean b => exact .boolean
  | array _ _ => exact .array
  | integer hn => exact .integer (if_pos hn)
  | number hx =>
      rw [TypedValue.toJson, if_pos (ht _ rfl)]
      exact .number rfl
  | @datetime s m hread =>
      have hback := Moment.ofChars?_chars hread (Or.inl rfl)
      refine .datetime ?_
      rw [TypedValue.toJson, Json.toMoment?, Moment.ofText?, Moment.text,
        String.toList_ofList]
      exact hback

/-- A number that is not finite is written as `null`, which no type of numbers
admits. -/
theorem coerce_toJson_number {v : Variable} {value : Json} {x : Double}
    (h : v.coerce value = .ok (.number x)) (hx : x.isFinite = false) :
    (TypedValue.number x).toJson = .null ∧
      v.coerce .null = .error (.invalidNumber v.name "None") := by
  constructor
  · rw [TypedValue.toJson, if_neg (by simp [hx])]
  · replace h := coerce_ok_iff.1 h
    unfold coerce
    generalize v.type = type at h
    cases h with
    | number _ => rfl

end Variable

/-- The inputs as they are written, by name. -/
def Inputs.echo (inputs : Inputs) : RawInputs :=
  inputs.map fun input => (input.1, input.2.toJson)

/-- The given names only. -/
def RawInputs.restrictTo (echo raw : RawInputs) : RawInputs :=
  echo.filter fun field => Entries.contains field.1 raw

namespace Schema

/-- Sorted inputs whose values all have a property. -/
def AllInputs (P : TypedValue → Prop) (inputs : Inputs) : Prop :=
  Entries.Sorted inputs ∧ ∀ input ∈ inputs, P input.2

theorem store_allInputs {P : TypedValue → Prop} {inputs : Inputs}
    (h : AllInputs P inputs) (name : String) {typed? : Option TypedValue}
    (htyped : ∀ t, typed? = some t → P t) :
    AllInputs P (store inputs name typed?) := by
  cases typed? with
  | none => exact h
  | some t =>
      refine ⟨Entries.insert_sorted h.1 name t, fun input hinput => ?_⟩
      rcases Entries.mem_insert hinput with rfl | hinput
      · exact htyped t rfl
      · exact h.2 input hinput

/-- A strict run is one step and the run from where it leads. -/
theorem strictFrom_cons_iff {raw : RawInputs} {v : Variable} {schema : Schema}
    {inputs result : Inputs} :
    strictFrom raw inputs (v :: schema) = .ok result ↔
      ∃ typed?, v.strictValue? raw = .ok typed? ∧
        strictFrom raw (store inputs v.name typed?) schema = .ok result := by
  cases hstrict : v.strictValue? raw with
  | error e => simp [strictFrom_cons_error hstrict]
  | ok typed? => simp [strictFrom_cons_ok hstrict]

theorem strictFrom_allInputs {P : TypedValue → Prop} {raw : RawInputs}
    {schema : Schema} {inputs result : Inputs}
    (hvalues : ∀ v ∈ schema, ∀ t, v.strictValue? raw = .ok (some t) → P t)
    (hinputs : AllInputs P inputs)
    (h : strictFrom raw inputs schema = .ok result) :
    AllInputs P result := by
  induction schema generalizing inputs with
  | nil =>
      obtain rfl := Except.ok.inj h
      exact hinputs
  | cons v schema ih =>
      obtain ⟨typed?, hstrict, hrest⟩ := strictFrom_cons_iff.1 h
      refine ih (fun u hu => hvalues u (List.mem_cons_of_mem v hu)) ?_ hrest
      refine store_allInputs hinputs v.name ?_
      rintro t rfl
      exact hvalues v List.mem_cons_self t hstrict

/-- A run leaves the names that it does not declare. -/
theorem get?_strictFrom_of_not_mem {raw : RawInputs} {schema : Schema}
    {inputs result : Inputs} {name : String}
    (hname : name ∉ schema.map Variable.name)
    (h : strictFrom raw inputs schema = .ok result) :
    Entries.get? name result = Entries.get? name inputs := by
  induction schema generalizing inputs with
  | nil =>
      obtain rfl := Except.ok.inj h
      rfl
  | cons v schema ih =>
      obtain ⟨typed?, -, hrest⟩ := strictFrom_cons_iff.1 h
      rw [List.map_cons, List.mem_cons, not_or] at hname
      rw [ih hname.2 hrest]
      cases typed? with
      | none => rfl
      | some t => rw [store, Entries.get?_insert, if_neg hname.1]

/-- Without repeated names, each declaration leaves its own value. -/
theorem get?_strictFrom {raw : RawInputs} {schema : Schema}
    {inputs result : Inputs} {v : Variable} {t : TypedValue}
    (hnames : (schema.map Variable.name).Nodup)
    (h : strictFrom raw inputs schema = .ok result) (hv : v ∈ schema)
    (hvalue : v.strictValue? raw = .ok (some t)) :
    Entries.get? v.name result = some t := by
  induction schema generalizing inputs with
  | nil => cases hv
  | cons u schema ih =>
      obtain ⟨typed?, hstrict, hrest⟩ := strictFrom_cons_iff.1 h
      rw [List.map_cons, List.nodup_cons] at hnames
      rcases List.mem_cons.1 hv with rfl | hv
      · obtain rfl := Except.ok.inj (hvalue.symm.trans hstrict)
        rw [get?_strictFrom_of_not_mem hnames.1 hrest, store,
          Entries.get?_insert, if_pos rfl]
      · exact ih hnames.2 hrest hv

/-- A run depends on its raw inputs through the values of its declarations. -/
theorem strictFrom_congr {raw other : RawInputs} {schema : Schema}
    (h : ∀ v ∈ schema, v.strictValue? other = v.strictValue? raw)
    (inputs : Inputs) :
    strictFrom other inputs schema = strictFrom raw inputs schema := by
  induction schema generalizing inputs with
  | nil => rfl
  | cons v schema ih =>
      have hrest := ih fun u hu => h u (List.mem_cons_of_mem v hu)
      have hv := h v List.mem_cons_self
      cases hstrict : v.strictValue? raw with
      | error e =>
          rw [strictFrom_cons_error hstrict,
            strictFrom_cons_error (hv.trans hstrict)]
      | ok typed? =>
          rw [strictFrom_cons_ok hstrict, strictFrom_cons_ok (hv.trans hstrict),
            hrest]

theorem coerce_of_coerceStrict {schema : Schema} {raw : RawInputs}
    {inputs : Inputs} (h : schema.coerceStrict raw = .ok inputs)
    (now : DateTime) (mode : CoercionMode) :
    schema.coerce now mode raw = .ok inputs := by
  cases mode with
  | strict => exact h
  | lenient => rw [coerce, coerceLenient_of_coerceStrict h now]

end Schema

/-- A strict run from raw inputs that a text holds to inputs that JSON can
express. -/
structure EchoRun (depth : Nat) (schema : Schema) (raw : RawInputs)
    (inputs : Inputs) : Prop where
  readable : Json.Readable (depth + 1) (.object raw)
  canonical : (Json.object raw).canonical = .object raw
  strict : schema.coerceStrict raw = .ok inputs
  expressible : ∀ input ∈ inputs, input.2.Expressible

namespace EchoRun

variable {depth : Nat} {schema : Schema} {raw : RawInputs} {inputs : Inputs}
  {v : Variable} {t : TypedValue}

theorem of_text
    (htext : ∃ text, Json.ofTextWithin? (depth + 1) text = some (.object raw))
    (hstrict : schema.coerceStrict raw = .ok inputs)
    (hinputs : ∀ input ∈ inputs, input.2.Expressible) :
    EchoRun depth schema raw inputs := by
  obtain ⟨hreadable, hcanonical⟩ := Json.exists_ofTextWithin?_iff.1 htext
  exact ⟨hreadable, hcanonical, hstrict, hinputs⟩

/-- What is given for a declaration is converted to what its type yields. -/
theorem fits (h : EchoRun depth schema raw inputs) (hdepth : 0 < depth)
    {value : Json} (hget : raw.get? v.name = some value)
    (hcoerce : v.coerce value = .ok t) :
    TypedValue.Fits depth v.type t := by
  have hmem := Entries.mem_of_get? hget
  have hcanonical := (h.readable.canonical_fields h.canonical).2 _ hmem
  cases h.readable with
  | object hvalues =>
      exact Variable.coerce_fits hdepth (hvalues _ hmem) hcanonical hcoerce

theorem readable_of_strictValue? (h : EchoRun depth schema raw inputs)
    (hdepth : 0 < depth) (hvalue : v.strictValue? raw = .ok (some t))
    (ht : t.Expressible) :
    Json.Readable depth t.toJson ∧ t.toJson.canonical = t.toJson := by
  unfold Variable.strictValue? at hvalue
  cases hget : raw.get? v.name with
  | none =>
      rw [hget] at hvalue
      obtain ⟨s, -, rfl⟩ := Option.map_eq_some_iff.1 (Except.ok.inj hvalue)
      exact ⟨.string depth s, rfl⟩
  | some value =>
      cases hcoerce : v.coerce value with
      | error e => simp [hget, hcoerce, Except.map] at hvalue
      | ok typed =>
          obtain rfl : typed = t := by
            simpa [hget, hcoerce, Except.map] using hvalue
          exact (h.fits hdepth hget hcoerce).readable ht

/-- The echo is read back. -/
theorem readable_echo (h : EchoRun depth schema raw inputs)
    (hdepth : 0 < depth) :
    Json.Readable (depth + 1) inputs.toJson ∧
      inputs.toJson.canonical = .object inputs.echo := by
  have hvalues : ∀ v ∈ schema, ∀ t, v.strictValue? raw = .ok (some t) →
      t.Expressible →
      Json.Readable depth t.toJson ∧ t.toJson.canonical = t.toJson := by
    intro v _ t hvalue ht
    exact h.readable_of_strictValue? hdepth hvalue ht
  obtain ⟨hsorted, hall⟩ :=
    Schema.strictFrom_allInputs hvalues
      ⟨List.Pairwise.nil, List.forall_mem_nil _⟩ h.strict
  have hfields : ∀ field ∈ inputs.echo,
      Json.Readable depth field.2 ∧ field.2.canonical = field.2 := by
    intro field hfield
    obtain ⟨input, hinput, rfl⟩ := List.mem_map.1 hfield
    exact hall input hinput (h.expressible input hinput)
  constructor
  · exact .object fun field hfield => (hfields field hfield).1
  · have hechoed : Entries.Sorted inputs.echo := List.pairwise_map.2 hsorted
    exact congrArg Json.object
      (Json.canonicalFields_eq_self hechoed fun field hfield =>
        (hfields field hfield).2)

/-- Given the echo of its own value, a declaration has that value again. -/
theorem strictValue?_restrictTo (h : EchoRun depth schema raw inputs)
    (hdepth : 0 < depth) (hnames : (schema.map Variable.name).Nodup)
    (hv : v ∈ schema) :
    v.strictValue? (inputs.echo.restrictTo raw) = v.strictValue? raw := by
  have hrestrict :=
    Entries.get?_filter (Entries.contains · raw) v.name inputs.echo
  have hecho := Entries.get?_map TypedValue.toJson v.name inputs
  cases hget : raw.get? v.name with
  | none =>
      have hnone : Entries.get? v.name (inputs.echo.restrictTo raw) = none := by
        rw [RawInputs.restrictTo, hrestrict,
          if_neg (by simp [Entries.contains, hget])]
      simp [Variable.strictValue?, hget, hnone]
  | some value =>
      obtain ⟨t, hcoerce⟩ :=
        (Schema.coerceStrict_ok_iff schema raw).1
          ⟨inputs, h.strict⟩ v hv value hget
      have hstrict : v.strictValue? raw = .ok (some t) := by
        simp [Variable.strictValue?, hget, hcoerce, Except.map]
      have hstored : Entries.get? v.name inputs = some t :=
        Schema.get?_strictFrom hnames h.strict hv hstrict
      have hsome : Entries.get? v.name (inputs.echo.restrictTo raw) =
          some t.toJson := by
        rw [RawInputs.restrictTo, hrestrict,
          if_pos (by simp [Entries.contains, hget]), Inputs.echo, hecho,
          hstored, Option.map_some]
      have hagain : v.coerce t.toJson = .ok t := by
        have ht := h.expressible _ (Entries.mem_of_get? hstored)
        exact Variable.coerce_toJson (h.fits hdepth hget hcoerce) ht
      rw [hstrict]
      simp [Variable.strictValue?, hsome, hagain, Except.map]

/-- The echo restricted to the names given converts to the same inputs. -/
theorem coerceStrict_restrictTo (h : EchoRun depth schema raw inputs)
    (hdepth : 0 < depth) (hnames : (schema.map Variable.name).Nodup) :
    schema.coerceStrict (inputs.echo.restrictTo raw) = .ok inputs := by
  have hsame : ∀ v ∈ schema,
      v.strictValue? (inputs.echo.restrictTo raw) = v.strictValue? raw := by
    intro v hv
    exact h.strictValue?_restrictTo hdepth hnames hv
  exact (Schema.strictFrom_congr hsame []).trans h.strict

end EchoRun

/-- What a strict rendering is made of. -/
theorem renderTemplate_strict_iff {now : DateTime} {template : String}
    {raw : RawInputs} {rendering : Rendering} :
    renderTemplate now .strict template raw = .ok rendering ↔
      (Schema.ofTemplate template).coerceStrict raw = .ok rendering.inputs ∧
        Template.render template rendering.inputs = .ok rendering.result := by
  unfold renderTemplate Schema.coerce
  cases hstrict : (Schema.ofTemplate template).coerceStrict raw with
  | error e => simp
  | ok inputs =>
      obtain ⟨result, echoed⟩ := rendering
      cases hrender : Template.render template inputs with
      | error e =>
          refine ⟨fun h => by simp [hrender] at h, ?_⟩
          rintro ⟨hinputs, hresult⟩
          obtain rfl := Except.ok.inj hinputs
          cases hrender.symm.trans hresult
      | ok text =>
          simp only [hrender, Except.ok.injEq, Rendering.mk.injEq]
          constructor
          · rintro ⟨rfl, rfl⟩
            exact ⟨rfl, hrender⟩
          · rintro ⟨rfl, hresult⟩
            exact ⟨Except.ok.inj (hrender.symm.trans hresult), rfl⟩

theorem Rendering.readable_toJson {depth : Nat} (rendering : Rendering)
    (h : Json.Readable depth rendering.inputs.toJson) :
    Json.Readable (depth + 1) rendering.toJson := by
  refine .object fun field hfield => ?_
  rcases List.mem_cons.1 hfield with rfl | hfield
  · exact .string _ _
  · rw [List.mem_singleton.1 hfield]
    exact h

/-- The object that is printed for a rendering, its fields in order. -/
theorem Rendering.canonical_toJson {rendering : Rendering}
    (h : rendering.inputs.toJson.canonical = .object rendering.inputs.echo) :
    rendering.toJson.canonical =
      .object [("inputs", .object rendering.inputs.echo),
        ("result", .string rendering.result)] := by
  have hfields : Json.canonicalFields
      [("result", .string rendering.result),
        ("inputs", rendering.inputs.toJson)] =
      [("inputs", rendering.inputs.toJson.canonical),
        ("result", .string rendering.result)] := rfl
  rw [h] at hfields
  exact congrArg Json.object hfields

/-- A value that is converted, written, read and converted again stays as it
is, unless it is a number that is not finite.  So do the inputs that a strict
run gives, in both modes, if the echo is taken for the names that were given,
and with them the rendering.  The values are those that texts hold, nested to
any depth; the program reads them up to `maxDepth`. -/
theorem echo_fixed_point :
    (∀ text, Json.ofText? text = Json.ofTextWithin? Json.maxDepth text) ∧
    ∀ depth, 1 < depth →
      (∀ (v : Variable) (value : Json) (t : TypedValue),
        (∃ text, Json.ofTextWithin? depth text = some value) →
        v.coerce value = .ok t →
        (t.Expressible →
          Json.ofTextWithin? depth t.toJson.compact = some t.toJson ∧
          Json.ofTextWithin? depth t.toJson.indented = some t.toJson ∧
          v.coerce t.toJson = .ok t) ∧
        (∀ x, t = .number x → x.isFinite = false →
          t.toJson.compact = "null" ∧ t.toJson.indented = "null" ∧
          Json.ofTextWithin? depth t.toJson.compact = some .null ∧
          Json.ofTextWithin? depth t.toJson.indented = some .null ∧
          v.coerce .null = .error (.invalidNumber v.name "None"))) ∧
      (∀ (schema : Schema) (raw : RawInputs) (inputs : Inputs),
        (∃ text, Json.ofTextWithin? depth text = some (.object raw)) →
        schema.coerceStrict raw = .ok inputs →
        (∀ input ∈ inputs, input.2.Expressible) →
        Json.ofTextWithin? depth inputs.toJson.compact =
          some (.object inputs.echo) ∧
        Json.ofTextWithin? depth inputs.toJson.indented =
          some (.object inputs.echo) ∧
        ((schema.map Variable.name).Nodup →
          ∀ now mode, schema.coerce now mode
            (inputs.echo.restrictTo raw) = .ok inputs)) ∧
      (∀ (now : DateTime) (template : String) (raw : RawInputs)
        (rendering : Rendering),
        (∃ text, Json.ofTextWithin? depth text = some (.object raw)) →
        renderTemplate now .strict template raw = .ok rendering →
        (∀ input ∈ rendering.inputs, input.2.Expressible) →
        Json.ofTextWithin? (depth + 1) rendering.toJson.indented =
          some (.object [("inputs", .object rendering.inputs.echo),
            ("result", .string rendering.result)]) ∧
        (((Schema.ofTemplate template).map Variable.name).Nodup →
          ∀ later mode, renderTemplate later mode template
            (rendering.inputs.echo.restrictTo raw) =
            .ok rendering)) := by
  refine ⟨Json.ofText?_eq, fun depth hdepth => ⟨?_, ?_, ?_⟩⟩
  · intro v value t htext hcoerce
    obtain ⟨hvalue, hcanonical⟩ := Json.exists_ofTextWithin?_iff.1 htext
    have hfits := Variable.coerce_fits (by omega) hvalue hcanonical hcoerce
    constructor
    · intro ht
      obtain ⟨hreadable, hfixed⟩ := hfits.readable ht
      rw [Json.ofTextWithin?_compact hreadable,
        Json.ofTextWithin?_indented hreadable, hfixed]
      exact ⟨rfl, rfl, Variable.coerce_toJson hfits ht⟩
    · rintro x rfl hx
      obtain ⟨hnull, hrefused⟩ := Variable.coerce_toJson_number hcoerce hx
      have hreadable := Json.Readable.null depth
      rw [hnull, Json.ofTextWithin?_compact hreadable,
        Json.ofTextWithin?_indented hreadable]
      exact ⟨rfl, rfl, rfl, rfl, hrefused⟩
  · intro schema raw inputs htext hstrict hinputs
    obtain ⟨inner, rfl⟩ : ∃ n, depth = n + 1 := ⟨depth - 1, by omega⟩
    have hrun := EchoRun.of_text htext hstrict hinputs
    obtain ⟨hreadable, hechoed⟩ := hrun.readable_echo (by omega)
    rw [Json.ofTextWithin?_compact hreadable,
      Json.ofTextWithin?_indented hreadable, hechoed]
    refine ⟨rfl, rfl, fun hnames now mode => ?_⟩
    have hagain := hrun.coerceStrict_restrictTo (by omega) hnames
    exact Schema.coerce_of_coerceStrict hagain now mode
  · intro now template raw rendering htext hrender hinputs
    obtain ⟨inner, rfl⟩ : ∃ n, depth = n + 1 := ⟨depth - 1, by omega⟩
    obtain ⟨hstrict, hresult⟩ := renderTemplate_strict_iff.1 hrender
    have hrun := EchoRun.of_text htext hstrict hinputs
    obtain ⟨hreadable, hechoed⟩ := hrun.readable_echo (by omega)
    constructor
    · have hwhole := rendering.readable_toJson hreadable
      rw [Json.ofTextWithin?_indented hwhole,
        Rendering.canonical_toJson hechoed]
    · intro hnames later mode
      have hagain := hrun.coerceStrict_restrictTo (by omega) hnames
      have hstrictly : renderTemplate later .strict template
          (rendering.inputs.echo.restrictTo raw) = .ok rendering :=
        renderTemplate_strict_iff.2 ⟨hagain, hresult⟩
      cases mode with
      | strict => exact hstrictly
      | lenient => exact renderTemplate_lenient_of_strict hstrictly later

def observedSchema : Schema :=
  [{ name := "at", type := .datetime }, { name := "level", type := .number },
    { name := "note", default := some "none" }]

def observedRaw : RawInputs :=
  [("at", .string "2016-12-31T23:59:60.5Z"), ("level", .string "1.5")]

def observedMoment : Moment :=
  .zoned ⟨⟨2016, 12, 31⟩, ⟨23, 59, 59, 1500000000⟩⟩ 0

def observedInputs : Inputs :=
  [("at", .datetime observedMoment),
    ("level", .number (.ofDecimal false 15 (-1))), ("note", .string "none")]

/-- A leap second is given again, and a default that was not given stays a
default. -/
theorem echo_fixed_point_leapSecond :
    observedSchema.coerceStrict observedRaw = .ok observedInputs ∧
    Json.ofTextWithin? 2 observedInputs.toJson.indented =
      some (.object observedInputs.echo) ∧
    observedInputs.echo.restrictTo observedRaw =
      [("at", .string "2016-12-31 23:59:60.500+00:00"),
        ("level", .number (.ofDecimal false 15 (-1)))] ∧
    observedSchema.coerce default .lenient
      (observedInputs.echo.restrictTo observedRaw) =
      .ok observedInputs := by
  have hmoment : (Json.string "2016-12-31T23:59:60.5Z").toMoment? =
      some observedMoment := by
    decide +kernel
  have hnumber : (Json.string "1.5").toNumber? =
      some (.ofDecimal false 15 (-1)) := by
    decide +kernel
  have hstrict : observedSchema.coerceStrict observedRaw =
      .ok observedInputs := by
    refine Schema.strictFrom_cons_iff.2
      ⟨some (.datetime observedMoment), ?_, ?_⟩
    · simp [Variable.strictValue?, Variable.coerce, observedRaw, Entries.get?,
        hmoment, Except.map]
    refine Schema.strictFrom_cons_iff.2
      ⟨some (.number (.ofDecimal false 15 (-1))), ?_, rfl⟩
    simp [Variable.strictValue?, Variable.coerce, observedRaw, Entries.get?,
      hnumber, Except.map]
  have hreadable : Json.Readable 2 (.object observedRaw) := by
    refine .object fun field hfield => ?_
    simp only [observedRaw, List.mem_cons, List.not_mem_nil, or_false] at hfield
    rcases hfield with rfl | rfl
    · exact .string 1 _
    · exact .string 1 _
  have htext : ∃ text, Json.ofTextWithin? 2 text = some (.object observedRaw) :=
    Json.exists_ofTextWithin?_iff.2 ⟨hreadable, rfl⟩
  have hinputs : ∀ input ∈ observedInputs, input.2.Expressible := by
    intro input hinput x hx
    simp only [observedInputs, List.mem_cons, List.not_mem_nil,
      or_false] at hinput
    rcases hinput with rfl | rfl | rfl
    · cases hx
    · obtain rfl := TypedValue.number.inj hx
      decide +kernel
    · cases hx
  have hechoed :=
    (echo_fixed_point.2 2 (by decide)).2.1 observedSchema observedRaw
      observedInputs
      htext hstrict hinputs
  refine ⟨hstrict, hechoed.2.1, ?_, hechoed.2.2 (by decide) default .lenient⟩
  rfl

end Stencil

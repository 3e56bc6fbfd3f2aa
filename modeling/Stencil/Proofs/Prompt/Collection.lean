/-
Collecting inputs from a user.  The names to ask for change while the user
answers, since an answered name counts as provided; what is asked for in the end
is known beforehand all the same.
-/
import Stencil.Proofs.Command.Session
import Stencil.Proofs.Entries
import Stencil.Proofs.Input.Lenience

namespace Stencil

/-- A list without some of its items keeps the order in which the others first
appear. -/
theorem eraseDups_filter (p : String → Bool) (names : List String) :
    (names.filter p).eraseDups = names.eraseDups.filter p := by
  cases names with
  | nil => rfl
  | cons name rest =>
      have hrest := eraseDups_filter p (rest.filter fun other => !other == name)
      rw [List.eraseDups_cons]
      by_cases hname : p name = true
      · rw [List.filter_cons_of_pos hname, List.filter_cons_of_pos hname,
          List.eraseDups_cons, ← hrest, List.filter_filter, List.filter_filter]
        simp only [Bool.and_comm]
      · rw [List.filter_cons_of_neg hname, List.filter_cons_of_neg hname,
          ← hrest, List.filter_filter]
        refine congrArg List.eraseDups (List.filter_congr fun other _ => ?_)
        by_cases hother : p other = true
        · have hne : other ≠ name := fun heq => hname (heq ▸ hother)
          simp [hother, hne]
        · simp [hother]
termination_by names.length
decreasing_by
  have hle := List.length_filter_le (fun other => !other == name) rest
  exact Nat.lt_succ_of_le hle

namespace Schema

variable {schema : Schema} {provided collected : RawInputs} {name : String}
  {value : Json}

/-- An answered name is the only one not asked for any more. -/
theorem missing_insert :
    schema.missing (collected.insert name value) =
      (schema.missing collected).filter fun v => v.name != name := by
  induction schema with
  | nil => rfl
  | cons v rest ih =>
      rw [missing, missing, Entries.contains_insert]
      cases hgiven : collected.contains v.name with
      | true => simpa using ih
      | false =>
          by_cases heq : v.name = name
          · simp [heq, ih, List.filter_filter]
          · simp [heq, ih, List.filter_filter, Bool.and_comm]

theorem missing_map_name :
    (schema.missing provided).map Variable.name =
      ((schema.map Variable.name).filter fun name =>
        !provided.contains name).eraseDups := by
  induction schema with
  | nil => rfl
  | cons v rest ih =>
      rw [missing, List.map_cons]
      cases hgiven : provided.contains v.name with
      | true => simpa [hgiven] using ih
      | false =>
          have hrest := eraseDups_filter (fun name => !name == v.name)
            ((rest.map Variable.name).filter fun name =>
              !provided.contains name)
          simp only [List.filter_cons, hgiven, Bool.not_false, if_true,
            List.eraseDups_cons]
          rw [hrest, ← ih]
          simp [List.filter_map, Function.comp_def, bne]

/-- What is asked for is the first declaration of a name that is not
provided. -/
theorem of_mem_missing {v : Variable} (h : v ∈ schema.missing provided) :
    schema.find? (fun u => u.name = v.name) = some v ∧
      provided.contains v.name = false := by
  induction schema with
  | nil => cases h
  | cons u rest ih =>
      rw [missing] at h
      cases hgiven : provided.contains u.name with
      | true =>
          rw [if_pos hgiven] at h
          obtain ⟨hfind, hmissing⟩ := ih h
          have hne : u.name ≠ v.name := by
            intro heq
            rw [heq, hmissing] at hgiven
            contradiction
          exact ⟨by simpa [List.find?, hne] using hfind, hmissing⟩
      | false =>
          rw [hgiven] at h
          rcases List.mem_cons.1 h with rfl | hlater
          · exact ⟨by simp [List.find?], hgiven⟩
          · obtain ⟨hrest, hne⟩ := List.mem_filter.1 hlater
            obtain ⟨hfind, hmissing⟩ := ih hrest
            have hne : u.name ≠ v.name := fun heq => by simp [heq] at hne
            exact ⟨by simpa [List.find?, hne] using hfind, hmissing⟩

theorem mem_missing_names_iff :
    name ∈ (schema.missing provided).map Variable.name ↔
      provided.contains name = false ∧ ∃ v ∈ schema, v.name = name := by
  rw [missing_map_name, List.mem_eraseDups, List.mem_filter, List.mem_map,
    Bool.not_eq_true', and_comm]

/-- Store the answers under the names that were asked for. -/
def withAnswers (provided : RawInputs) (asked : Schema) (answers : List Json) :
    RawInputs :=
  (asked.zip answers).foldl
    (fun collected pair => collected.insert pair.1.name pair.2) provided

theorem collectAsking_eq {m : Type → Type} [Monad m] [LawfulMonad m]
    (ask : Variable → m Json) :
    schema.collectAsking ask provided =
      (schema.missing provided).mapM ask >>= fun answers =>
        pure (withAnswers provided (schema.missing provided) answers) := by
  induction schema generalizing provided with
  | nil => simp [collectAsking, missing, withAnswers]
  | cons v rest ih =>
      rw [collectAsking, missing]
      cases hgiven : provided.contains v.name with
      | true => simpa using ih
      | false =>
          simp only [Bool.false_eq_true, if_false, List.mapM_cons, bind_assoc,
            pure_bind]
          refine bind_congr fun value => ?_
          rw [ih, missing_insert]
          rfl

/-- Answers change the names that were asked for only. -/
theorem get?_withAnswers_of_unasked {asked : Schema} {answers : List Json}
    (h : name ∉ asked.map Variable.name) :
    (withAnswers provided asked answers).get? name = provided.get? name := by
  induction asked generalizing provided answers with
  | nil => rfl
  | cons v asked ih =>
      rw [List.map_cons, List.mem_cons, not_or] at h
      cases answers with
      | nil => rfl
      | cons answer answers =>
          have hrest :
              (withAnswers (provided.insert v.name answer) asked
                answers).get? name =
              (provided.insert v.name answer).get? name := ih h.2
          rw [Entries.get?_insert, if_neg h.1] at hrest
          exact hrest

theorem contains_withAnswers {asked : Schema} {answers : List Json}
    (h : answers.length = asked.length) :
    (withAnswers provided asked answers).contains name = true ↔
      provided.contains name = true ∨ name ∈ asked.map Variable.name := by
  induction asked generalizing provided answers with
  | nil => simp [withAnswers]
  | cons v asked ih =>
      cases answers with
      | nil => cases h
      | cons answer answers =>
          rw [List.map_cons, List.mem_cons]
          refine (ih (Nat.succ.inj h)).trans ?_
          rw [Entries.contains_insert, Bool.or_eq_true, beq_iff_eq,
            or_comm (a := name = v.name), or_assoc]

end Schema

/-- Keys that answer the questions for some variables one after the other.  Each
question gets the keys that the one before it has left over. -/
inductive Dialogue : Schema → List Key → List Json → List Key → Prop
  | done (keys : List Key) : Dialogue [] keys [] keys
  | answer {v : Variable} {asked : Schema} {keys left rest : List Key}
      {value : Json}
      {answers : List Json} (first : v.question.ask keys = .ok (value, left))
      (more : Dialogue asked left answers rest) :
      Dialogue (v :: asked) keys (value :: answers) rest

theorem Dialogue.length_eq {asked : Schema} {keys rest : List Key}
    {answers : List Json} (h : Dialogue asked keys answers rest) :
    answers.length = asked.length := by
  induction h with
  | done keys => rfl
  | answer first more ih => exact congrArg Nat.succ ih

namespace Host

variable {files : Files} {keys : List Key} {screen : Bool} {after : Session}

/-- A question that can be shown is answered by the keys that wait. -/
theorem run_ask (v : Variable) :
    (Session.ask v).run ⟨files, some keys, screen⟩ =
      if screen then
        match v.question.ask keys with
        | .ok (value, left) => (.ok value, ⟨files, some left, screen⟩)
        | .error cause => (.error cause, ⟨files, some keys, screen⟩)
      else (.error .notATerminal, ⟨files, some keys, screen⟩) := by
  cases screen with
  | false => rfl
  | true =>
      change (match v.question.ask keys with
        | .ok (value, rest) => _
        | .error cause => _ : StateM Session (Except Unanswered Json)).run _ = _
      cases v.question.ask keys <;> rfl

theorem run_askFor_eq_ok_iff (environment : Environment) (wording : Wording)
    (now : DateTime) {v : Variable} {value : Json} :
    ((Session.host environment wording now).askFor v).run.run
      ⟨files, some keys, screen⟩ =
        (.ok value, after) ↔
      screen = true ∧ ∃ left, v.question.ask keys = .ok (value, left) ∧
        after = ⟨files, some left, screen⟩ := by
  rw [askFor, run_attempt_eq_ok_iff]
  change (Session.ask v).run _ = _ ↔ _
  rw [run_ask]
  cases screen with
  | false =>
      constructor
      · intro h
        cases h
      · rintro ⟨hscreen, -⟩
        cases hscreen
  | true =>
      cases v.question.ask keys with
      | error cause =>
          constructor
          · intro h
            cases h
          · rintro ⟨-, left, hanswer, -⟩
            cases hanswer
      | ok reply =>
          constructor
          · intro h
            cases h
            exact ⟨rfl, reply.2, rfl, rfl⟩
          · rintro ⟨-, left, hanswer, rfl⟩
            cases hanswer
            rfl

theorem run_mapM_askFor_eq_ok_iff (environment : Environment)
    (wording : Wording) (now : DateTime) {asked : Schema}
    {answers : List Json} :
    (asked.mapM (Session.host environment wording now).askFor).run.run
      ⟨files, some keys, screen⟩ =
        (.ok answers, after) ↔
      (asked = [] ∨ screen = true) ∧ ∃ rest, Dialogue asked keys answers rest ∧
        after = ⟨files, some rest, screen⟩ := by
  induction asked generalizing keys answers with
  | nil =>
      rw [List.mapM_nil, run_pure_eq_ok_iff]
      constructor
      · rintro ⟨rfl, rfl⟩
        exact ⟨Or.inl rfl, keys, .done keys, rfl⟩
      · rintro ⟨-, rest, ⟨⟩, rfl⟩
        exact ⟨rfl, rfl⟩
  | cons v asked ih =>
      rw [List.mapM_cons, run_bind_eq_ok_iff]
      constructor
      · rintro ⟨value, next, hfirst, hmore⟩
        obtain ⟨hscreen, left, hanswer, rfl⟩ :=
          (run_askFor_eq_ok_iff environment wording now).1 hfirst
        obtain ⟨later, last, hlater, hend⟩ := run_bind_eq_ok_iff.1 hmore
        obtain ⟨rfl, rfl⟩ := run_pure_eq_ok_iff.1 hend
        obtain ⟨-, rest, hdialogue, rfl⟩ := ih.1 hlater
        exact ⟨Or.inr hscreen, rest, .answer hanswer hdialogue, rfl⟩
      · rintro ⟨hscreen, rest, hdialogue, rfl⟩
        cases hdialogue with
        | answer hanswer hmore =>
            have hscreen : screen = true :=
              hscreen.resolve_left (List.cons_ne_nil v asked)
            refine ⟨_, _, (run_askFor_eq_ok_iff environment wording now).2
              ⟨hscreen, _, hanswer, rfl⟩, ?_⟩
            refine run_bind_eq_ok_iff.2
              ⟨_, _, ih.2 ⟨Or.inr hscreen, rest, hmore, rfl⟩, ?_⟩
            exact run_pure_eq_ok_iff.2 ⟨rfl, rfl⟩

/-- Where there is a terminal and questions are allowed, collecting ends well if
the keys complete the dialogue on what is missing. -/
theorem run_collect_eq_ok_iff (environment : Environment) (wording : Wording)
    (now : DateTime) {schema : Schema} {provided raw : RawInputs} :
    ((Session.host environment wording now).collect false schema
      provided).run.run
        ⟨files, some keys, screen⟩ = (.ok raw, after) ↔
      (schema.missing provided = [] ∨ screen = true) ∧
        ∃ answers rest, Dialogue (schema.missing provided) keys answers rest ∧
          raw = Schema.withAnswers provided (schema.missing provided) answers ∧
          after = ⟨files, some rest, screen⟩ := by
  change (schema.collectAsking
    (Session.host environment wording now).askFor provided).run.run _ = _ ↔ _
  rw [Schema.collectAsking_eq, run_bind_eq_ok_iff]
  constructor
  · rintro ⟨answers, next, hasked, hend⟩
    obtain ⟨hscreen, rest, hdialogue, rfl⟩ :=
      (run_mapM_askFor_eq_ok_iff environment wording now).1 hasked
    obtain ⟨rfl, rfl⟩ := run_pure_eq_ok_iff.1 hend
    exact ⟨hscreen, answers, rest, hdialogue, rfl, rfl⟩
  · rintro ⟨hscreen, answers, rest, hdialogue, rfl, rfl⟩
    refine ⟨answers, _, ?_, run_pure_eq_ok_iff.2 ⟨rfl, rfl⟩⟩
    exact (run_mapM_askFor_eq_ok_iff environment wording now).2
      ⟨hscreen, rest, hdialogue, rfl⟩

/-- The answer to the only question is stored under the name that was asked
for. -/
theorem run_collect_answer (environment : Environment) (wording : Wording)
    (now : DateTime) {v : Variable} {provided : RawInputs} {value : Json}
    {left : List Key} (hmissing : provided.contains v.name = false)
    (h : v.question.ask keys = .ok (value, left)) :
    ((Session.host environment wording now).collect false [v] provided).run.run
      ⟨files, some keys, true⟩ =
      (.ok (provided.insert v.name value), ⟨files, some left, true⟩) := by
  have hasked : Schema.missing [v] provided = [v] := by
    simp [Schema.missing, hmissing]
  apply (run_collect_eq_ok_iff environment wording now).2
  refine ⟨Or.inr rfl, [value], left, ?_, ?_, rfl⟩
  · rw [hasked]
    exact .answer h (.done left)
  · rw [hasked]
    rfl

end Host

/-- Collecting inputs from a user.  What is asked for are the declared names
that are not provided, each once and as its first declaration has it, in the
order of these; this holds however questions are asked.  At a terminal, the keys
have to answer these questions one after the other, and keys beyond them stay.
The result has the provided and the declared names and leaves what was provided,
so that lenient conversion gives every declared name a value. -/
theorem collect_asks_for_missing (schema : Schema) (provided : RawInputs) :
    (schema.missing provided).map Variable.name =
      ((schema.map Variable.name).filter fun name =>
        !provided.contains name).eraseDups ∧
    (∀ v ∈ schema.missing provided,
      schema.find? (fun u => u.name = v.name) = some v) ∧
    (∀ {m : Type → Type} [Monad m] [LawfulMonad m] (ask : Variable → m Json),
      schema.collectAsking ask provided =
        (schema.missing provided).mapM ask >>= fun answers =>
          pure (Schema.withAnswers provided
            (schema.missing provided) answers)) ∧
    ∀ environment wording now files keys screen raw after,
      (((Session.host environment wording now).collect false schema
        provided).run.run
          ⟨files, some keys, screen⟩ = (.ok raw, after) ↔
        (schema.missing provided = [] ∨ screen = true) ∧
          ∃ answers rest, Dialogue (schema.missing provided) keys answers rest ∧
            raw = Schema.withAnswers provided
              (schema.missing provided) answers ∧
            after = ⟨files, some rest, screen⟩) ∧
      (((Session.host environment wording now).collect false schema
        provided).run.run
          ⟨files, some keys, screen⟩ = (.ok raw, after) →
        (∀ name, raw.contains name = true ↔
          provided.contains name = true ∨ ∃ v ∈ schema, v.name = name) ∧
        (∀ name value, provided.get? name = some value →
          raw.get? name = some value) ∧
        ∀ later, ∀ v ∈ schema,
          (schema.coerceLenient later raw).contains v.name = true) := by
  have hfirst : ∀ v ∈ schema.missing provided,
      schema.find? (fun u => u.name = v.name) = some v := by
    intro v hv
    exact (Schema.of_mem_missing hv).1
  refine ⟨Schema.missing_map_name, hfirst, fun ask =>
    Schema.collectAsking_eq ask, ?_⟩
  intro environment wording now files keys screen raw after
  refine ⟨Host.run_collect_eq_ok_iff environment wording now, fun h => ?_⟩
  obtain ⟨-, answers, rest, hdialogue, rfl, -⟩ :=
    (Host.run_collect_eq_ok_iff environment wording now).1 h
  have hnames : ∀ name,
      (Schema.withAnswers provided (schema.missing provided) answers).contains
        name = true ↔
        provided.contains name = true ∨ ∃ v ∈ schema, v.name = name := by
    intro name
    rw [Schema.contains_withAnswers hdialogue.length_eq,
      Schema.mem_missing_names_iff]
    cases provided.contains name <;> simp
  refine ⟨hnames, ?_, ?_⟩
  · intro name value hvalue
    rw [Schema.get?_withAnswers_of_unasked ?_, hvalue]
    intro hasked
    have hmissing := (Schema.mem_missing_names_iff.1 hasked).1
    rw [Entries.contains, hvalue] at hmissing
    cases hmissing
  · intro later v hv
    have hdeclared : ∃ u ∈ schema, u.name = v.name := ⟨v, hv, rfl⟩
    exact Schema.coerceLenient_contains_iff.2
      ⟨hdeclared, Or.inl ((hnames v.name).2 (Or.inr hdeclared))⟩

/-- A name declared twice, a truth value, and a name that is provided. -/
def surveySchema : Schema :=
  [{ name := "a", required := true }, { name := "b", type := .boolean },
    { name := "a", type := .integer, default := some "5" },
    { name := "c", required := true }]

/-- The empty answer to the required text is not taken, the second declaration
of its name is not asked for, and the last key is left over. -/
theorem collect_surveySchema :
    (surveySchema.missing [("c", .null)]).map Variable.name = ["a", "b"] ∧
    surveySchema.collectAsking (fun v => some (.string v.label))
      [("c", .null)] =
      some [("a", .string "a"), ("b", .string "b"), ("c", .null)] ∧
    ((Session.host .bare default default).collect false surveySchema
      [("c", .null)]).run.run
        ⟨⟨.empty, []⟩, some [.enter, .char 'x', .enter, .char 'y', .up], true⟩ =
      (.ok [("a", .string "x"), ("b", .bool true), ("c", .null)],
        ⟨⟨.empty, []⟩, some [.up], true⟩) ∧
    (surveySchema.coerceLenient default
      [("a", .string "x"), ("b", .bool true), ("c", .null)]).contains "b" =
        true := by
  obtain ⟨hnames, -, hany, hsession⟩ :=
    collect_asks_for_missing surveySchema [("c", .null)]
  have hdialogue : Dialogue (surveySchema.missing [("c", .null)])
      [.enter, .char 'x', .enter, .char 'y', .up] [.string "x", .bool true]
      [.up] :=
    .answer rfl (.answer rfl (.done _))
  obtain ⟨hcompletes, hresult⟩ := hsession .bare default default ⟨.empty, []⟩
    [.enter, .char 'x', .enter, .char 'y', .up] true
    [("a", .string "x"), ("b", .bool true), ("c", .null)]
    ⟨⟨.empty, []⟩, some [.up], true⟩
  have hrun := hcompletes.2 ⟨Or.inr rfl, _, _, hdialogue, rfl, rfl⟩
  obtain ⟨-, -, hcoerced⟩ := hresult hrun
  have hb : { name := "b", type := .boolean } ∈ surveySchema := by
    simp [surveySchema]
  refine ⟨?_, ?_, hrun, hcoerced default _ hb⟩
  · rw [hnames]
    rfl
  · rw [hany]
    rfl

namespace Variable

variable {v : Variable}

/-- A row is shown by the value that is taken from it.  The added row gives the
empty text and is shown by a word of its own. -/
theorem shownRows_row {i : Nat} {value shown : String}
    (hvalue : v.choiceRows[i]? = some value)
    (hshown : v.shownRows[i]? = some shown) :
    shown = value ∨
      (i = 0 ∧ v.required = false ∧ value = "" ∧ shown = "(none)") := by
  rw [choiceRows, List.getElem?_map, Option.map_eq_some_iff] at hvalue
  rw [shownRows, List.getElem?_map, Option.map_eq_some_iff] at hshown
  obtain ⟨row, hrow, rfl⟩ := hvalue
  obtain ⟨other, hother, rfl⟩ := hshown
  cases hrow.symm.trans hother
  cases row with
  | some option => exact Or.inl rfl
  | none =>
      right
      rw [rows] at hrow
      split at hrow
      next => simp [List.getElem?_map] at hrow
      next hoptional =>
          cases i with
          | zero => exact ⟨rfl, Bool.not_eq_true _ ▸ hoptional, rfl, rfl⟩
          | succ i => simp at hrow

/-- The line that asks for a variable begins with its label, or with its name if
the label is empty. -/
theorem promptText_starts (v : Variable) :
    (if v.label = "" then v.name else v.label).toList <+:
      v.promptText.toList := by
  rw [promptText, String.append_assoc, String.toList_append]
  exact List.prefix_append _ _

/-- What is shown of a variable before it is answered: its description if there
is one, a line that begins with its label, and the rows of a choice, each by its
value. -/
theorem announcement_shows (v : Variable) :
    ∃ title shown, v.announcement =
        (v.description.map ("  " ++ ·)).toList ++
          title :: shown.map ("- " ++ ·) ∧
      v.label.toList <+: title.toList ∧
      match v.question with
      | .choice rows _ => shown.length = rows.length ∧
          ∀ i value text, rows[i]? = some value → shown[i]? = some text →
            text = value ∨
              (i = 0 ∧ v.required = false ∧ value = "" ∧ text = "(none)")
      | _ => shown = [] := by
  have hlabel : v.label.toList <+: v.promptText.toList := by
    have hstarts := v.promptText_starts
    split at hstarts
    next hempty => simp [hempty]
    next => exact hstarts
  rw [announcement]
  cases hquestion : v.question with
  | truth preset => exact ⟨v.label, [], rfl, List.prefix_rfl, rfl⟩
  | line preset required line => exact ⟨v.promptText, [], rfl, hlabel, rfl⟩
  | choice rows cursor =>
      have hrows : rows = v.choiceRows := by
        rw [question] at hquestion
        split at hquestion
        next => cases hquestion
        next =>
            split at hquestion <;> cases hquestion
            rfl
        next => cases hquestion
      subst hrows
      refine ⟨v.label, v.shownRows, rfl, List.prefix_rfl, ?_,
        fun i value text => shownRows_row⟩
      rw [shownRows, choiceRows, List.length_map, List.length_map]

example :
    Variable.announcement
      { name := "size", type := .select, options := ["S"],
        description := some "Of a shirt" } =
      ["  Of a shirt", "size", "- (none)", "- S"] := by decide +kernel

end Variable

/-- Ask as the user sees it: what is shown comes before the answer. -/
def askAloud (answer : Variable → Json) (v : Variable) :
    StateM (List String) Json := do
  modify (· ++ v.announcement)
  pure (answer v)

theorem run_mapM_askAloud (answer : Variable → Json) (asked : Schema)
    (shown : List String) :
    (asked.mapM (askAloud answer)).run shown =
      (asked.map answer, shown ++ asked.flatMap Variable.announcement) := by
  induction asked generalizing shown with
  | nil =>
      rw [List.flatMap_nil, List.append_nil]
      rfl
  | cons v asked ih =>
      rw [List.mapM_cons, StateT.run_bind]
      change (asked.mapM (askAloud answer) >>= fun answers =>
        pure (answer v :: answers)).run (shown ++ v.announcement) = _
      rw [StateT.run_bind, ih, List.flatMap_cons, ← List.append_assoc]
      rfl

/-- Over a whole collection the user is shown what is missing, each variable
once and in the order in which they are asked for, and nothing of what was
provided. -/
theorem Schema.run_collectAsking_askAloud (answer : Variable → Json)
    (schema : Schema) (provided : RawInputs) (shown : List String) :
    (schema.collectAsking (askAloud answer) provided).run shown =
      (withAnswers provided (schema.missing provided)
        ((schema.missing provided).map answer),
        shown ++ (schema.missing provided).flatMap Variable.announcement) := by
  rw [collectAsking_eq, StateT.run_bind, run_mapM_askAloud]
  rfl

end Stencil

/-
Accepting a preset answer.  Enter at the question for a variable gives the
answer that the question was opened with.  For the conversion this is the
default itself, except that a question for a truth value knows one of the words
for true only.
-/
import Stencil.Proofs.Prompt.Choice

namespace Stencil

namespace Variable

variable {v : Variable} {preset : String}

/-- The question for the variable can offer the text as its default: the text is
not empty, and where there are options it is one of them. -/
structure Offers (v : Variable) (preset : String) : Prop where
  given : v.default = some preset
  filled : preset ≠ ""
  option : v.type = .select → v.options ≠ [] → preset ∈ v.options

/-- The answer that Enter gives to a question which offers a default. -/
def presetAnswer (v : Variable) (preset : String) : Json :=
  if v.type = .boolean then .bool (preset = "true") else .string preset

/-- Enter at the question for the variable is converted to the same value as the
text, or refused like it. -/
def EnterStandsFor (v : Variable) (preset : String) : Prop :=
  ∃ answer, (∀ rest, v.question.ask (.enter :: rest) = .ok (answer, rest)) ∧
    v.coerce answer = v.coerce (.string preset)

theorem question_line (htype : v.type ≠ .boolean)
    (hselect : v.type = .select → v.options = []) :
    v.question = .line v.effectiveDefault v.required .empty := by
  rw [question]
  split
  · contradiction
  next heq => simp [hselect heq]
  next => rfl

theorem ask_enter_line (h : v.Offers preset) (htype : v.type ≠ .boolean)
    (hselect : v.type = .select → v.options = []) (rest : List Key) :
    v.question.ask (.enter :: rest) = .ok (.string preset, rest) := by
  have hdefault := effectiveDefault_eq_some_iff.2 ⟨h.given, h.filled⟩
  rw [question_line htype hselect, hdefault]
  rfl

theorem ask_enter_choice (h : v.Offers preset) (hselect : v.type = .select)
    (hoptions : v.options ≠ []) (rest : List Key) :
    v.question.ask (.enter :: rest) = .ok (.string preset, rest) := by
  have hrow := v.startsOn_presetRow.preset_row h.given h.filled
    (h.option hselect hoptions)
  have hpress : (Question.choice v.choiceRows v.presetRow).press .enter =
      .answer (.string ((v.choiceRows[v.presetRow]?).getD "")) := rfl
  rw [getElem?_choiceRows hrow] at hpress
  rw [question_select hselect hoptions,
    Question.ask_of_answer (by decide) hpress]
  rfl

/-- Each of the three kinds of question reads the default in its own way. -/
theorem ask_enter (h : v.Offers preset) (rest : List Key) :
    v.question.ask (.enter :: rest) = .ok (v.presetAnswer preset, rest) := by
  by_cases htype : v.type = .boolean
  · rw [question, htype, presetAnswer, if_pos htype, h.given]
    simp [Question.ask, Question.press]
  · rw [presetAnswer, if_neg htype]
    by_cases hchoice : v.type = .select ∧ v.options ≠ []
    · exact ask_enter_choice h hchoice.1 hchoice.2 rest
    · apply ask_enter_line h htype
      intro hselect
      by_contra hoptions
      exact hchoice ⟨hselect, hoptions⟩

theorem coerce_boolean (htype : v.type = .boolean) (value : Json) :
    v.coerce value = .ok (.boolean value.isTruthy) := by
  simp only [coerce, htype]

theorem isTruthy_string_iff {text : String} :
    (Json.string text).isTruthy = true ↔ text = "true" ∨ text = "True" ∨
      text = "1" := by
  rw [Json.isTruthy, decide_eq_true_iff]

/-- Enter gives the preset answer, which is stored under the name of the
variable.  For every type and kind of question it is converted like the default
given as text, or refused like it, but for two words: a question for a truth
value offers the defaults `True` and `1` as false, although both are read as
true. -/
theorem enter_stands_for_preset (h : v.Offers preset) :
    (v.EnterStandsFor preset ↔
      ¬ (v.type = .boolean ∧ (preset = "True" ∨ preset = "1"))) ∧
      (v.type = .boolean → preset = "True" ∨ preset = "1" →
        v.coerce (v.presetAnswer preset) = .ok (.boolean false) ∧
          v.coerce (.string preset) = .ok (.boolean true)) ∧
      ∀ environment wording now files provided rest,
        provided.contains v.name = false →
        ((Session.host environment wording now).collect false
          [v] provided).run.run
            ⟨files, some (.enter :: rest), true⟩ =
          (.ok (provided.insert v.name (v.presetAnswer preset)),
            ⟨files, some rest, true⟩) := by
  have hwords : v.type = .boolean → preset = "True" ∨ preset = "1" →
      v.coerce (v.presetAnswer preset) = .ok (.boolean false) ∧
        v.coerce (.string preset) = .ok (.boolean true) := by
    intro htype hpreset
    have hfalse : preset ≠ "true" := by rcases hpreset with rfl | rfl <;> decide
    have htrue : (Json.string preset).isTruthy = true :=
      isTruthy_string_iff.2 (Or.inr hpreset)
    rw [coerce_boolean htype, coerce_boolean htype, presetAnswer,
      if_pos htype, htrue]
    simp [Json.isTruthy, hfalse]
  refine ⟨⟨?_, ?_⟩, hwords, ?_⟩
  · rintro ⟨answer, hask, hsame⟩ ⟨htype, hpreset⟩
    have hanswer : answer = v.presetAnswer preset := by
      have hboth := (hask []).symm.trans (ask_enter h [])
      exact (Prod.mk.inj (Except.ok.inj hboth)).1
    rw [hanswer, (hwords htype hpreset).1, (hwords htype hpreset).2] at hsame
    simp at hsame
  · intro hother
    refine ⟨v.presetAnswer preset, ask_enter h, ?_⟩
    by_cases htype : v.type = .boolean
    · have hpreset : ¬ (preset = "True" ∨ preset = "1") := fun hwords =>
        hother ⟨htype, hwords⟩
      have htruth : (Json.string preset).isTruthy =
          (Json.bool (preset = "true")).isTruthy := by
        rw [Bool.eq_iff_iff, isTruthy_string_iff]
        simp [Json.isTruthy, hpreset]
      rw [coerce_boolean htype, coerce_boolean htype, presetAnswer,
        if_pos htype, htruth]
    · rw [presetAnswer, if_neg htype]
  · intro environment wording now files provided rest hmissing
    exact Host.run_collect_answer environment wording now hmissing
      (ask_enter h rest)

/-- Enter takes the size that is preset. -/
theorem enter_stands_for_preset_shop :
    shopVariable.Offers "M" ∧ shopVariable.EnterStandsFor "M" := by
  have hoffers : shopVariable.Offers "M" :=
    ⟨rfl, by decide, fun _ _ => by decide⟩
  refine ⟨hoffers, (enter_stands_for_preset hoffers).1.2 ?_⟩
  rintro ⟨htype, -⟩
  cases htype

/-- A truth value whose default is written with a capital letter. -/
def consentVariable : Variable :=
  { name := "consent", type := .boolean, default := some "True" }

/-- Enter at the question for it means false, and its default as a text means
true. -/
theorem not_enterStandsFor_capital :
    consentVariable.Offers "True" ∧
      ¬ consentVariable.EnterStandsFor "True" := by
  refine ⟨⟨rfl, by decide, fun htype => by cases htype⟩, ?_⟩
  rintro ⟨answer, hask, hsame⟩
  obtain rfl : Json.bool false = answer := by
    have hanswer : consentVariable.question.ask [.enter] =
        .ok (.bool false, []) := rfl
    exact (Prod.mk.inj (Except.ok.inj (hanswer.symm.trans (hask [])))).1
  cases hsame

end Variable

end Stencil

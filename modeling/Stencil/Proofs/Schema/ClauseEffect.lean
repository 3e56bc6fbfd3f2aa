/-
What a clause does to a variable.  A clause that says a field of a variable
sets this field and leaves the others, so clauses that say a variable build it
in any order.
-/
import Stencil.Proofs.Schema.ClauseSpelling

namespace Stencil

open Text

namespace ValueSpelling

/-- The value is text in quotes, or a bare word. -/
def IsText : ValueSpelling → String → Prop
  | quoted _ text, s => text = s.toList
  | bare text, s => text = s.toList
  | _, _ => False

/-- The value is a list of these options. -/
def IsOptions : ValueSpelling → List String → Prop
  | list items, options =>
      items.map OptionSpelling.text = options.map String.toList
  | _, _ => False

/-- The value is digits that denote an integer of 64 bits. -/
def IsBound : ValueSpelling → Bound → Prop
  | digits text, .integer n =>
      n = Numeral.digitsValue text ∧ n < 9223372036854775808
  | _, _ => False

variable {v : ValueSpelling}

theorem IsText.text_eq {s : String} (h : v.IsText s) : v.value.text = s := by
  cases v with
  | quoted quote text => rw [value, ClauseValue.text, h, String.ofList_toList]
  | bare text => rw [value, ClauseValue.text, h, String.ofList_toList]
  | list items => exact h.elim
  | digits text => exact h.elim

theorem IsOptions.optionsOf_eq {options : List String} (hv : v.Valid)
    (h : v.IsOptions options) :
    Declaration.optionsOf v.value.text = options := by
  cases v with
  | list items =>
      have hne : items.map OptionSpelling.chars ≠ [] := by simpa using hv.1
      have hcomma : ∀ piece ∈ items.map OptionSpelling.chars, ',' ∉ piece := by
        intro piece hpiece
        obtain ⟨item, hitem, rfl⟩ := List.mem_map.1 hpiece
        exact OptionSpelling.not_mem_chars (hv.2 item hitem) (by simp)
      have htrim : ∀ item ∈ items,
          String.ofList (trimWhere (· == '\'') (trimWhere (· == '"')
          (trimBlanks item.chars))) = String.ofList item.text := by
        intro item hitem
        rw [OptionSpelling.trim_chars (hv.2 item hitem)]
      calc Declaration.optionsOf (String.ofList (listInner items))
        _ = items.map fun item =>
            String.ofList (trimWhere (· == '\'') (trimWhere (· == '"')
              (trimBlanks item.chars))) := by
            rw [Declaration.optionsOf, String.toList_ofList, listInner,
              List.splitOn_intercalate ',' hcomma hne, List.map_map]
            rfl
        _ = (items.map OptionSpelling.text).map String.ofList := by
            rw [List.map_map]
            exact List.map_congr_left htrim
        _ = options := by
            rw [h, List.map_map]
            simp [Function.comp_def]
  | quoted quote text => exact h.elim
  | digits text => exact h.elim
  | bare text => exact h.elim

theorem IsBound.ofLiteral?_eq {bound : Bound} (hv : v.Valid)
    (h : v.IsBound bound) :
    Bound.ofLiteral? v.value.text = some bound := by
  cases v with
  | digits text =>
      cases bound with
      | integer n =>
          obtain ⟨rfl, hlt⟩ := h
          have hin : Numeral.inInt64 (Numeral.digitsValue text) = true := by
            rw [Numeral.inInt64_iff]
            omega
          have hdigits : Numeral.isDigits text = true := hv
          simp [value, ClauseValue.text, Bound.ofLiteral?, hdigits, hin]
      | float x => exact h.elim
  | quoted quote text => exact h.elim
  | list items => exact h.elim
  | bare text => exact h.elim

end ValueSpelling

namespace ClauseKey

/-- Two variables have the same value in the field of a key. -/
def Agree (k : ClauseKey) (v w : Variable) : Prop :=
  match k with
  | type => v.type = w.type
  | label => v.label = w.label
  | required => v.required = w.required
  | options => v.options = w.options
  | min => v.min = w.min
  | max => v.max = w.max
  | default => v.default = w.default
  | placeholder => v.placeholder = w.placeholder
  | description => v.description = w.description

theorem eq_of_agree {v w : Variable} (hname : v.name = w.name)
    (h : ∀ k, Agree k v w) :
    v = w := by
  have htype := h .type
  have hlabel := h .label
  have hrequired := h .required
  have hoptions := h .options
  have hmin := h .min
  have hmax := h .max
  have hdefault := h .default
  have hplaceholder := h .placeholder
  have hdescription := h .description
  obtain ⟨⟩ := v
  obtain ⟨⟩ := w
  simp_all [Agree]

end ClauseKey

/-- A word for a flag, in any case. -/
def FlagWord (flag : Bool) (word : String) : Prop :=
  word.toList.map Char.toLower = if flag then "true".toList else "false".toList

theorem FlagWord.isTrueWord_eq {flag : Bool} {word : String}
    (h : FlagWord flag word) :
    Declaration.isTrueWord word = flag := by
  rw [Declaration.isTrueWord, h]
  cases flag with
  | false => decide
  | true => decide

/-- After a clause, a bound is the one that the clause gives or the one there
was before. -/
theorem Declaration.forall_mem_bound {P : Bound → Prop} {literal : String}
    {bound? : Option Bound}
    (hgiven : ∀ bound, Bound.ofLiteral? literal = some bound → P bound)
    (hbefore : ∀ bound ∈ bound?, P bound) :
    ∀ bound ∈ (Bound.ofLiteral? literal).or bound?, P bound := by
  intro bound hbound
  rcases Option.or_eq_some_iff.1 hbound with hread | ⟨-, hold⟩
  · exact hgiven bound hread
  · exact hbefore bound hold

namespace ClauseSpelling

/-- The value of a clause is a written form of the field of its key. -/
def Says (c : ClauseSpelling) (v : Variable) : Prop :=
  match c.key with
  | .type => ∃ token, VarType.ofToken token = v.type ∧ c.value.IsText token
  | .label => c.value.IsText v.label
  | .required => ∃ word, FlagWord v.required word ∧ c.value.IsText word
  | .options => c.value.IsOptions v.options
  | .min => ∃ bound, v.min = some bound ∧ c.value.IsBound bound
  | .max => ∃ bound, v.max = some bound ∧ c.value.IsBound bound
  | .default => ∃ text, v.default = some text ∧ c.value.IsText text
  | .placeholder => ∃ text, v.placeholder = some text ∧ c.value.IsText text
  | .description => ∃ text, v.description = some text ∧ c.value.IsText text

variable {c : ClauseSpelling} {v : Variable}

theorem apply_name (w : Variable) :
    (Declaration.apply w c.clause).name = w.name := by
  obtain ⟨key, beforeEquals, afterEquals, value⟩ := c
  cases key <;> rfl

/-- A clause sets the field of its key to what it says. -/
theorem apply_agree (hc : c.Valid) (h : c.Says v) (w : Variable) :
    c.key.Agree (Declaration.apply w c.clause) v := by
  obtain ⟨key, beforeEquals, afterEquals, value⟩ := c
  have hvalue := hc.value_valid
  cases key with
  | type =>
      obtain ⟨token, htoken, htext⟩ := h
      change VarType.ofToken value.value.text = v.type
      rw [htext.text_eq, htoken]
  | label => exact ValueSpelling.IsText.text_eq h
  | required =>
      obtain ⟨word, hword, htext⟩ := h
      change Declaration.isTrueWord value.value.text = v.required
      rw [htext.text_eq, hword.isTrueWord_eq]
  | options => exact ValueSpelling.IsOptions.optionsOf_eq hvalue h
  | min =>
      obtain ⟨bound, hbound, hdigits⟩ := h
      change (Bound.ofLiteral? value.value.text).or w.min = v.min
      rw [hdigits.ofLiteral?_eq hvalue, hbound, Option.some_or]
  | max =>
      obtain ⟨bound, hbound, hdigits⟩ := h
      change (Bound.ofLiteral? value.value.text).or w.max = v.max
      rw [hdigits.ofLiteral?_eq hvalue, hbound, Option.some_or]
  | default =>
      obtain ⟨text, htext, hvalue⟩ := h
      change some value.value.text = v.default
      rw [hvalue.text_eq, htext]
  | placeholder =>
      obtain ⟨text, htext, hvalue⟩ := h
      change some value.value.text = v.placeholder
      rw [hvalue.text_eq, htext]
  | description =>
      obtain ⟨text, htext, hvalue⟩ := h
      change some value.value.text = v.description
      rw [hvalue.text_eq, htext]

/-- A clause leaves the fields of all other keys as they are. -/
theorem apply_frame {k : ClauseKey} (hk : k ≠ c.key) (w : Variable) :
    k.Agree (Declaration.apply w c.clause) v ↔ k.Agree w v := by
  obtain ⟨key, beforeEquals, afterEquals, value⟩ := c
  cases key <;> cases k <;> first | exact Iff.rfl | exact absurd rfl hk

/-- After clauses that describe a variable, a field agrees with it if it has a
clause, or if it agreed before. -/
theorem foldl_apply_agree {clauses : List ClauseSpelling}
    (hclauses : ∀ c ∈ clauses, c.Valid ∧ c.Says v) {k : ClauseKey}
    {w : Variable} (hk : k ∈ clauses.map key ∨ k.Agree w v) :
    k.Agree ((clauses.map clause).foldl Declaration.apply w) v := by
  induction clauses generalizing w with
  | nil => simpa using hk
  | cons c clauses ih =>
      obtain ⟨hvalid, hsaid⟩ := hclauses c List.mem_cons_self
      have hclauses' : ∀ d ∈ clauses, d.Valid ∧ d.Says v := fun d hd =>
        hclauses d (List.mem_cons_of_mem c hd)
      apply ih hclauses'
      by_cases heq : k = c.key
      · exact Or.inr (heq ▸ apply_agree hvalid hsaid w)
      · rw [apply_frame heq]
        simpa [heq] using hk

theorem foldl_apply_name {clauses : List ClauseSpelling} {w : Variable} :
    ((clauses.map clause).foldl Declaration.apply w).name = w.name := by
  induction clauses generalizing w with
  | nil => rfl
  | cons c clauses ih => rw [List.map_cons, List.foldl_cons, ih, apply_name]

end ClauseSpelling

end Stencil

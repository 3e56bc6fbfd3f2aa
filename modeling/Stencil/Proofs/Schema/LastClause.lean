/-
Which clause decides a field.  The last clause of a key does, and a limit is the
last one that can be read.  Clauses of different keys do not meet, so they may
change places.
-/
import Stencil.Proofs.Schema.ClauseEffect

namespace Stencil

namespace ClauseKey

/-- The key as it is read. -/
def name (k : ClauseKey) : String :=
  String.ofList k.word

theorem name_inj {k l : ClauseKey} : k.name = l.name ↔ k = l := by
  constructor
  · intro h
    cases k <;> cases l <;> first | rfl | exact absurd h (by decide)
  · exact congrArg name

end ClauseKey

namespace Clause

/-- The text of the last clause of a key. -/
def lastText? (k : ClauseKey) (clauses : List Clause) : Option String :=
  (clauses.filter fun c => c.key = k.name).getLast?.map fun c => c.value.text

/-- The limit in the last clause of a key that holds one. -/
def lastBound? (k : ClauseKey) (clauses : List Clause) : Option Bound :=
  ((clauses.filter fun c => c.key = k.name).filterMap fun c =>
    Bound.ofLiteral? c.value.text).getLast?

/-- The clause has no key that says a field, or it sets a limit that cannot be
read. -/
def IsIdle (c : Clause) : Prop :=
  (∀ k : ClauseKey, c.key ≠ k.name) ∨
    (c.key = ClauseKey.min.name ∨ c.key = ClauseKey.max.name) ∧
      Bound.ofLiteral? c.value.text = none

/-- Clauses of different keys change places, and idle clauses come and go. -/
inductive Rearranged : List Clause → List Clause → Prop
  | refl (clauses : List Clause) : Rearranged clauses clauses
  | symm {first second : List Clause} :
      Rearranged first second → Rearranged second first
  | trans {first second third : List Clause} :
      Rearranged first second → Rearranged second third → Rearranged first third
  | swap {c d : Clause} (before after : List Clause) :
      c.key ≠ d.key →
        Rearranged (before ++ c :: d :: after) (before ++ d :: c :: after)
  | idle {c : Clause} (before after : List Clause) :
      c.IsIdle → Rearranged (before ++ c :: after) (before ++ after)

variable {c d : Clause} {k : ClauseKey} {clauses before after : List Clause}

theorem lastText?_concat (k : ClauseKey) (clauses : List Clause) (c : Clause) :
    lastText? k (clauses ++ [c]) =
      if c.key = k.name then some c.value.text else lastText? k clauses := by
  unfold lastText?
  by_cases hc : c.key = k.name <;> simp [hc]

theorem lastBound?_concat (k : ClauseKey) (clauses : List Clause) (c : Clause) :
    lastBound? k (clauses ++ [c]) =
      if c.key = k.name then
        (Bound.ofLiteral? c.value.text).or (lastBound? k clauses)
      else lastBound? k clauses := by
  unfold lastBound?
  by_cases hc : c.key = k.name
  · cases hbound : Bound.ofLiteral? c.value.text <;> simp [hc, hbound]
  · simp [hc]

theorem filter_swap (hne : c.key ≠ d.key) (k : ClauseKey) :
    ((before ++ c :: d :: after).filter fun e => e.key = k.name) =
      (before ++ d :: c :: after).filter fun e => e.key = k.name := by
  have hone : ¬ (c.key = k.name ∧ d.key = k.name) := fun h =>
    hne (h.1.trans h.2.symm)
  by_cases hc : c.key = k.name
  · have hd : d.key ≠ k.name := fun hd => hone ⟨hc, hd⟩
    simp [hc, hd]
  · simp [hc, List.filter_cons]

theorem lastText?_of_ne (hne : c.key ≠ k.name) :
    lastText? k (before ++ c :: after) = lastText? k (before ++ after) := by
  simp [lastText?, hne]

theorem lastBound?_of_ne
    (h : c.key = k.name → Bound.ofLiteral? c.value.text = none) :
    lastBound? k (before ++ c :: after) = lastBound? k (before ++ after) := by
  unfold lastBound?
  by_cases hc : c.key = k.name
  · simp [hc, h hc]
  · simp [hc]

theorem IsIdle.key_ne (h : c.IsIdle) (hmin : k ≠ .min) (hmax : k ≠ .max) :
    c.key ≠ k.name := by
  rcases h with hunknown | ⟨hkey | hkey, -⟩
  · exact hunknown k
  · rw [hkey, ne_eq, ClauseKey.name_inj]
    exact hmin.symm
  · rw [hkey, ne_eq, ClauseKey.name_inj]
    exact hmax.symm

theorem IsIdle.unreadable (h : c.IsIdle) (hkey : c.key = k.name) :
    Bound.ofLiteral? c.value.text = none := by
  rcases h with hunknown | ⟨-, hnone⟩
  · exact absurd hkey (hunknown k)
  · exact hnone

end Clause

open Clause

/-- The variable in which the last clause of each key decides its field. -/
def Variable.ofLast (name : String) (clauses : List Clause) : Variable where
  name := name
  type := ((lastText? .type clauses).map VarType.ofToken).getD .string
  label := (lastText? .label clauses).getD name
  required :=
    ((lastText? .required clauses).map Declaration.isTrueWord).getD false
  options := ((lastText? .options clauses).map Declaration.optionsOf).getD []
  min := lastBound? .min clauses
  max := lastBound? .max clauses
  default := lastText? .default clauses
  placeholder := lastText? .placeholder clauses
  description := lastText? .description clauses

namespace Declaration

variable {c : Clause} {first second : List Clause}

theorem apply_of_unknown (h : ∀ k : ClauseKey, c.key ≠ k.name) (v : Variable) :
    apply v c = v := by
  unfold apply
  simp only
  split
  next heq => exact absurd heq (h .type)
  next heq => exact absurd heq (h .label)
  next heq => exact absurd heq (h .required)
  next heq => exact absurd heq (h .options)
  next heq => exact absurd heq (h .min)
  next heq => exact absurd heq (h .max)
  next heq => exact absurd heq (h .default)
  next heq => exact absurd heq (h .placeholder)
  next heq => exact absurd heq (h .description)
  next => rfl

/-- One more clause decides the field of its key. -/
theorem apply_ofLast (name : String) (clauses : List Clause) (c : Clause) :
    apply (Variable.ofLast name clauses) c =
      Variable.ofLast name (clauses ++ [c]) := by
  by_cases hknown : ∃ k : ClauseKey, c.key = k.name
  · obtain ⟨k, hk⟩ := hknown
    obtain ⟨key, value⟩ := c
    simp only at hk
    subst hk
    simp only [Variable.ofLast, lastText?_concat, lastBound?_concat,
      ClauseKey.name_inj]
    cases k <;> rfl
  · rw [not_exists] at hknown
    rw [apply_of_unknown hknown]
    simp only [Variable.ofLast, lastText?_concat, lastBound?_concat,
      if_neg (hknown _)]

theorem foldl_apply_eq (name : String) (clauses : List Clause) :
    clauses.foldl apply { name := name } = Variable.ofLast name clauses := by
  induction clauses using List.reverseRecOn with
  | nil => rfl
  | append_singleton clauses c ih =>
      rw [List.foldl_append, ih]
      exact apply_ofLast name clauses c

/-- Rearranged clauses decide the same variable. -/
theorem ofLast_of_rearranged (name : String) (h : Rearranged first second) :
    Variable.ofLast name first = Variable.ofLast name second := by
  induction h with
  | refl => rfl
  | symm _ ih => exact ih.symm
  | trans _ _ ih₁ ih₂ => exact ih₁.trans ih₂
  | swap before after hne =>
      simp only [Variable.ofLast, lastText?, lastBound?, filter_swap hne]
  | @idle c before after hidle =>
      have htext : ∀ k, k ≠ .min → k ≠ .max →
          lastText? k (before ++ c :: after) = lastText? k (before ++ after) :=
        fun k hmin hmax => lastText?_of_ne (hidle.key_ne hmin hmax)
      have hbound : ∀ k, lastBound? k (before ++ c :: after) =
          lastBound? k (before ++ after) :=
        fun k => lastBound?_of_ne fun hkey => hidle.unreadable hkey
      simp (disch := decide) only [Variable.ofLast, htext, hbound]

/-- The clauses of a declaration act on their own fields only: the last one of a
key decides the field, or the last limit that can be read, and without any the
field is what a new variable has.  Clauses of different keys in another order,
clauses with unknown keys and limits that cannot be read make no difference. -/
theorem toVariable_by_key :
    (∀ name config : String,
      toVariable ⟨name, config⟩ = Variable.ofLast name (ofConfig config)) ∧
    ∀ name first second : String, Rearranged (ofConfig first)
      (ofConfig second) →
      toVariable ⟨name, first⟩ = toVariable ⟨name, second⟩ := by
  have hlast : ∀ name config : String,
      toVariable ⟨name, config⟩ = Variable.ofLast name (ofConfig config) :=
    fun name config => foldl_apply_eq name (ofConfig config)
  refine ⟨hlast, fun name first second h => ?_⟩
  rw [hlast, hlast]
  exact ofLast_of_rearranged name h

/-- A limit that cannot be read leaves the earlier one, and an unknown key says
nothing. -/
theorem toVariable_sizeClauses :
    Rearranged (ofConfig "min=1, type=integer, min=x, hue=red")
      (ofConfig "type=integer, min=1") ∧
      toVariable ⟨"size", "min=1, type=integer, min=x, hue=red"⟩ =
        toVariable ⟨"size", "type=integer, min=1"⟩ ∧
      toVariable ⟨"size", "type=integer, min=1"⟩ =
        { name := "size", type := .integer, min := some (.integer 1) } := by
  have hrearranged : Rearranged (ofConfig "min=1, type=integer, min=x, hue=red")
      (ofConfig "type=integer, min=1") := by
    have hfirst : ofConfig "min=1, type=integer, min=x, hue=red" =
        [⟨"min", .number "1"⟩, ⟨"type", .bareword "integer"⟩,
          ⟨"min", .bareword "x"⟩, ⟨"hue", .bareword "red"⟩] := by decide +kernel
    have hsecond : ofConfig "type=integer, min=1" =
        [⟨"type", .bareword "integer"⟩, ⟨"min", .number "1"⟩] := by
          decide +kernel
    have hunknown : IsIdle ⟨"hue", .bareword "red"⟩ := Or.inl fun k => by
      cases k <;> decide
    have hlimit : IsIdle ⟨"min", .bareword "x"⟩ :=
      Or.inr ⟨Or.inl rfl, by decide⟩
    rw [hfirst, hsecond]
    refine .trans (.idle [_, _, _] [] hunknown)
      (.trans (.idle [_, _] [] hlimit) ?_)
    exact .swap [] [] (by decide)
  exact ⟨hrearranged, toVariable_by_key.2 _ _ _ hrearranged, by decide +kernel⟩

end Declaration

end Stencil

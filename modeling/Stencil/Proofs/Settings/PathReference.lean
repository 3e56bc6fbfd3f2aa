/-
References to variables in a path.  A path is cut into plain text and
references, and its expansion puts a value for each reference; it fails just
where a variable is not set that nothing stands in for.
-/
import Stencil.Environment
import Stencil.Proofs.Text.Pairs
import Stencil.Proofs.Text.Runs

namespace Stencil

open Text

/-- A piece of a path as it is written: text with its meaning, or a reference to
a variable with what stands in for the variable. -/
inductive PathPiece where
  | literal (written meaning : List Char)
  | reference (written name : List Char) (standIn : Option (List Char))

namespace PathPiece

open Environment

def written : PathPiece → List Char
  | literal written _ => written
  | reference written _ _ => written

/-- What a piece stands for. -/
def value? (environment : Environment) : PathPiece → Option (List Char)
  | literal _ meaning => some meaning
  | reference _ name standIn =>
      ((environment.get? (String.ofList name)).map String.toList).or standIn

/-- The mark between a name and what stands in for it. -/
def standInMark : List Char := [':', '-']

/-- The characters that may follow a dollar sign with a meaning. -/
def followsDollar (c : Char) : Bool :=
  isNameChar c || c == '$' || c == '{'

/-- The pieces that can stand in front of a text.  A dollar sign begins a name,
which goes as far as its characters do, or a name in braces; it is doubled to
stand for itself, and stands for itself also where none of these follows. -/
inductive Stands : PathPiece → List Char → Prop
  | char {c : Char} {rest : List Char} (plain : c ≠ '$') :
      Stands (literal [c] [c]) rest
  | doubled {rest : List Char} : Stands (literal ['$', '$'] ['$']) rest
  | alone {rest : List Char} (next : Stops followsDollar rest) :
      Stands (literal ['$'] ['$']) rest
  | unclosed {rest : List Char} (never_closed : '}' ∉ rest) :
      Stands (literal ['$', '{'] ['$', '{']) rest
  | name {name rest : List Char} (name_ne_nil : name ≠ [])
      (name_chars : ∀ c ∈ name, isNameChar c = true)
      (next : Stops isNameChar rest) :
      Stands (reference ('$' :: name) name none) rest
  | braced {name rest : List Char} (closed : '}' ∉ name)
      (unmarked : standInMark <:+: name → standInMark <+: name) :
      Stands (reference ('$' :: '{' :: (name ++ ['}'])) name none) rest
  | preferred {name standIn rest : List Char} (name_ne_nil : name ≠ [])
      (closed : '}' ∉ name)
      (standIn_closed : '}' ∉ standIn) (first : ¬ standInMark <:+: name) :
      Stands (reference
        ('$' :: '{' :: (name ++ standInMark ++ standIn ++ ['}'])) name
        (some standIn)) rest

/-- The pieces of a path. -/
inductive Cut : List PathPiece → List Char → Prop
  | done : Cut [] []
  | piece {p : PathPiece} {rest : List Char} {pieces : List PathPiece}
      (stands : p.Stands rest)
      (more : Cut pieces rest) : Cut (p :: pieces) (p.written ++ rest)

variable {environment : Environment} {p : PathPiece} {rest cs : List Char}
  {fuel : Nat}

theorem value?_eq_none_iff :
    p.value? environment = none ↔
      ∃ written name, p = reference written name none ∧
        environment.get? (String.ofList name) = none := by
  cases p with
  | literal => simp [value?]
  | reference written name standIn =>
      cases standIn with
      | some standIn => simp [value?]
      | none =>
          rw [value?, Option.or_none, Option.map_eq_none_iff]
          constructor
          · intro h
            exact ⟨written, name, rfl, h⟩
          · rintro ⟨_, _, ⟨⟩, h⟩
            exact h

theorem Stands.written_ne_nil (h : p.Stands rest) : p.written ≠ [] := by
  cases h <;> exact List.cons_ne_nil _ _

theorem braced?_of_unmarked {name : List Char}
    (h : standInMark <:+: name → standInMark <+: name) :
    environment.braced? name =
      (environment.get? (String.ofList name)).map String.toList := by
  rw [braced?]
  split
  next c before standIn hcut =>
      -- the mark would stand in front of itself
      exfalso
      obtain ⟨htext, hfirst⟩ := of_splitAtFirst?_pair hcut
      obtain ⟨tail, htail⟩ :=
        h ⟨c :: before, standIn, by simp [htext, standInMark]⟩
      rw [htext] at htail
      cases before with
      | nil => simp [standInMark] at htail
      | cons d before =>
          simp only [standInMark, List.cons_append, List.nil_append,
            List.cons.injEq] at htail
          obtain ⟨rfl, rfl, -⟩ := htail
          exact hfirst ⟨[], before, rfl⟩
  next => rfl

theorem braced?_of_marked {name : List Char} (hname : name ≠ [])
    (h : ¬ standInMark <:+: name) (standIn : List Char) :
    environment.braced? (name ++ standInMark ++ standIn) =
      some (((environment.get? (String.ofList name)).map String.toList).getD
        standIn) := by
  obtain ⟨c, cs, rfl⟩ := List.exists_cons_of_ne_nil hname
  have hcut : splitAtFirst? [':', '-'] (c :: cs ++ standInMark ++ standIn) =
      some (c :: cs, standIn) := by
    rw [List.append_assoc]
    exact splitAtFirst?_pair (by decide) h
  rw [braced?, hcut]

theorem substitute?_brace {inner : List Char} (hclosed : '}' ∉ inner) :
    environment.substitute? (fuel + 1)
      ('$' :: '{' :: (inner ++ ['}']) ++ rest) =
      (environment.braced? inner).bind fun value =>
        (environment.substitute? fuel rest).map (value ++ ·) := by
  have hcut : splitAtFirst? ['}'] (inner ++ ['}'] ++ rest) =
      some (inner, rest) := by
    rw [List.append_assoc]
    exact splitAtFirst?_singleton hclosed rest
  simp only [List.cons_append, substitute?, hcut, Option.map_eq_bind]
  rfl

/-- A dollar sign alone is kept. -/
theorem substitute?_dollar (h : Stops followsDollar rest) :
    environment.substitute? (fuel + 1) ('$' :: rest) =
      (environment.substitute? fuel rest).map ('$' :: ·) := by
  have hname : rest.takeWhile isNameChar = [] := by
    apply takeWhile_eq_nil_of_stops
    intro c hc
    have hnot := h c hc
    simp only [followsDollar, Bool.or_eq_false_iff] at hnot
    exact hnot.1.1
  cases rest with
  | nil => rfl
  | cons c cs =>
      have hnot := stops_cons.1 h
      simp only [followsDollar, Bool.or_eq_false_iff,
        beq_eq_false_iff_ne] at hnot
      rw [substitute?, hname]
      · rfl
      · rintro d ⟨⟩
        exact hnot.2 rfl
      · rintro d ⟨⟩
        exact hnot.1.2 rfl

/-- A step of the expansion puts the value of the piece that stands at the
head. -/
theorem substitute?_written (h : p.Stands rest) :
    environment.substitute? (fuel + 1) (p.written ++ rest) =
      (p.value? environment).bind fun value =>
        (environment.substitute? fuel rest).map (value ++ ·) := by
  cases h with
  | char plain =>
      rw [written, List.singleton_append, substitute?]
      · rfl
      all_goals simp_all
  | doubled => rfl
  | alone next => exact substitute?_dollar next
  | unclosed never_closed =>
      have hcut := splitAtFirst?_singleton_eq_none never_closed
      simp only [written, List.cons_append, List.nil_append, substitute?, hcut]
      rfl
  | @name name rest name_ne_nil name_chars next =>
      obtain ⟨c, cs, rfl⟩ := List.exists_cons_of_ne_nil name_ne_nil
      have hbrace : c ≠ '{' := ne_of_class (name_chars c List.mem_cons_self)
          (by decide)
      have hdollar : c ≠ '$' := ne_of_class (name_chars c List.mem_cons_self)
          (by decide)
      rw [written, List.cons_append, List.cons_append, substitute?,
        ← List.cons_append, takeWhile_run name_chars next,
        dropWhile_run name_chars next]
      · simp only [value?, Option.or_none, Option.map_eq_bind]
        cases environment.get? (String.ofList (c :: cs)) with
        | none => rfl
        | some value => rfl
      · rintro d ⟨⟩
        exact hbrace rfl
      · rintro d ⟨⟩
        exact hdollar rfl
  | braced closed unmarked =>
      rw [written, substitute?_brace closed, braced?_of_unmarked unmarked,
        value?, Option.or_none]
  | @preferred name standIn rest name_ne_nil closed standIn_closed first =>
      have hclosed : '}' ∉ name ++ standInMark ++ standIn := by
        simp [standInMark, closed, standIn_closed]
      rw [written, substitute?_brace hclosed,
        braced?_of_marked name_ne_nil first, value?]
      cases environment.get? (String.ofList name) with
      | none => rfl
      | some value => rfl

/-- What the pieces of a path stand for together. -/
def expansion? (environment : Environment) (pieces : List PathPiece) :
    Option (List Char) :=
  (pieces.mapM (value? environment)).map List.flatten

/-- A piece refers to a variable that is not set, and nothing stands in for
it. -/
def Unset (environment : Environment) (pieces : List PathPiece) : Prop :=
  ∃ written name, reference written name none ∈ pieces ∧
    environment.get? (String.ofList name) = none

theorem expansion?_cons (p : PathPiece) (pieces : List PathPiece) :
    expansion? environment (p :: pieces) =
      (p.value? environment).bind fun value =>
        (expansion? environment pieces).map (value ++ ·) := by
  rw [expansion?, expansion?, List.mapM_cons]
  cases p.value? environment with
  | none => rfl
  | some value => cases pieces.mapM (value? environment) <;> rfl

theorem expansion?_eq_none_iff {pieces : List PathPiece} :
    expansion? environment pieces = none ↔ Unset environment pieces := by
  induction pieces with
  | nil => simp [expansion?, Unset]
  | cons p pieces ih =>
      have hcons : expansion? environment (p :: pieces) = none ↔
          p.value? environment = none ∨
            expansion? environment pieces = none := by
        rw [expansion?_cons]
        cases p.value? environment <;> simp
      rw [hcons, ih, value?_eq_none_iff]
      simp only [Unset, List.mem_cons]
      constructor
      · rintro (⟨written, name, rfl, h⟩ | ⟨written, name, hmem, h⟩)
        · exact ⟨written, name, Or.inl rfl, h⟩
        · exact ⟨written, name, Or.inr hmem, h⟩
      · rintro ⟨written, name, rfl | hmem, h⟩
        · exact Or.inl ⟨written, name, rfl, h⟩
        · exact Or.inr ⟨written, name, hmem, h⟩

/-- Every step takes at least one character, so the length of the text is enough
fuel. -/
theorem Cut.substitute?_eq {pieces : List PathPiece} (h : Cut pieces cs)
    (hfuel : cs.length ≤ fuel) :
    environment.substitute? fuel cs = expansion? environment pieces := by
  induction h generalizing fuel with
  | done => cases fuel <;> rfl
  | @piece p rest pieces stands more ih =>
      have hpos := List.length_pos_iff.2 stands.written_ne_nil
      rw [List.length_append] at hfuel
      obtain ⟨fuel, rfl⟩ : ∃ n, fuel = n + 1 :=
        Nat.exists_eq_add_of_le' (by omega)
      rw [substitute?_written stands, expansion?_cons, ih (by omega)]

/-- A brace behind a dollar sign begins a reference if it is closed. -/
theorem exists_stands_brace (cs : List Char) :
    ∃ (p : PathPiece) (rest : List Char), p.Stands rest ∧
      p.written ++ rest = '$' :: '{' :: cs := by
  by_cases hclosed : '}' ∈ cs
  · obtain ⟨inner, rest, rfl, hinner⟩ := List.eq_append_cons_of_mem hclosed
    by_cases hunmarked : standInMark <:+: inner → standInMark <+: inner
    · exact ⟨_, rest, .braced hinner hunmarked, by simp [written]⟩
    · obtain ⟨⟨front, back, hmark⟩, hfront⟩ := Classical.not_imp.1 hunmarked
      obtain ⟨⟨name, standIn⟩, hcut⟩ :=
        exists_splitAtFirst?_pair ':' '-' front back
      have htext : front ++ ':' :: '-' :: back = inner := by
        simpa [standInMark] using hmark
      rw [htext] at hcut
      obtain ⟨rfl, hfirst⟩ := of_splitAtFirst?_pair hcut
      rw [List.mem_append, not_or, List.mem_cons, List.mem_cons, not_or,
        not_or] at hinner
      have hname : name ≠ [] := by
        rintro rfl
        exact hfront ⟨standIn, rfl⟩
      refine ⟨_, rest, .preferred hname hinner.1 hinner.2.2.2 hfirst, ?_⟩
      simp [written, standInMark]
  · exact ⟨_, cs, .unclosed hclosed, rfl⟩

/-- Some piece stands at the head of every text. -/
theorem exists_stands (c : Char) (cs : List Char) :
    ∃ (p : PathPiece) (rest : List Char), p.Stands rest ∧
      p.written ++ rest = c :: cs := by
  by_cases hc : c = '$'
  · subst hc
    cases cs with
    | nil => exact ⟨_, [], .alone (stops_nil _), rfl⟩
    | cons d cs =>
        by_cases hdollar : d = '$'
        · subst hdollar
          exact ⟨_, cs, .doubled, rfl⟩
        · by_cases hbrace : d = '{'
          · subst hbrace
            exact exists_stands_brace cs
          · cases hname : isNameChar d with
            | true =>
                have hchars : ∀ e ∈ (d :: cs).takeWhile isNameChar,
                    isNameChar e = true :=
                  fun e he => List.mem_takeWhile_imp he
                have hne : (d :: cs).takeWhile isNameChar ≠ [] := by
                  simp [hname]
                refine ⟨_, _,
                  .name hne hchars (stops_dropWhile isNameChar (d :: cs)), ?_⟩
                exact congrArg ('$' :: ·) List.takeWhile_append_dropWhile
            | false =>
                refine ⟨_, d :: cs, .alone (stops_cons.2 ?_), rfl⟩
                simp [followsDollar, hname, hdollar, hbrace]
  · exact ⟨_, cs, .char hc, rfl⟩

theorem exists_cut (cs : List Char) : ∃ pieces, Cut pieces cs := by
  induction hlength : cs.length using Nat.strong_induction_on
    generalizing cs with
  | h n ih =>
      cases cs with
      | nil => exact ⟨[], .done⟩
      | cons c cs =>
          obtain ⟨p, rest, stands, htext⟩ := exists_stands c cs
          have hpos := List.length_pos_iff.2 stands.written_ne_nil
          have htotal := congrArg List.length htext
          rw [List.length_append, hlength] at htotal
          obtain ⟨pieces, more⟩ := ih rest.length (by omega) rest rfl
          exact ⟨p :: pieces, htext ▸ .piece stands more⟩

end PathPiece

end Stencil

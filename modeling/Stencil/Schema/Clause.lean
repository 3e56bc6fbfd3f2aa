/-
The clauses of a declaration.  A clause is a key, an equals sign and a value;
whatever stands between clauses is skipped.
-/
import Stencil.Text.Split

namespace Stencil

/-- The four ways to write a value. -/
inductive ClauseValue where
  | quoted (text : String)
  | list (text : String)
  | number (text : String)
  | bareword (text : String)
deriving DecidableEq, Repr

/-- The text of a value without its delimiters. -/
def ClauseValue.text : ClauseValue → String
  | quoted s => s
  | list s => s
  | number s => s
  | bareword s => s

structure Clause where
  key : String
  value : ClauseValue
deriving DecidableEq, Repr

namespace Clause

open Text

/-- The text up to a closing character, and the rest after it. -/
def untilChar? (close : Char) : List Char → Option (List Char × List Char)
  | [] => none
  | c :: cs =>
      if c = close then some ([], cs)
      else (untilChar? close cs).map fun (inner, rest) => (c :: inner, rest)

/-- Digits, and a point with digits if they follow. -/
def takeNumber (cs : List Char) : List Char × List Char :=
  let whole := cs.takeWhile isDecimal
  match cs.dropWhile isDecimal with
  | '.' :: tail =>
      let places := tail.takeWhile isDecimal
      if places.isEmpty then (whole, '.' :: tail)
      else (whole ++ '.' :: places, tail.dropWhile isDecimal)
  | rest => (whole, rest)

/-- The value at the head of a text: quoted, between brackets, a number, or a
word. -/
def valueAt? : List Char → Option (ClauseValue × List Char)
  | [] => none
  | c :: cs =>
      if c = '"' then
        (untilChar? '"' cs).map fun (inner, rest) =>
          (.quoted (String.ofList inner), rest)
      else if c = '\'' then
        (untilChar? '\'' cs).map fun (inner, rest) =>
          (.quoted (String.ofList inner), rest)
      else if c = '[' then
        (untilChar? ']' cs).map fun (inner, rest) =>
          (.list (String.ofList inner), rest)
      else if isDecimal c then
        let (digits, rest) := takeNumber (c :: cs)
        some (.number (String.ofList digits), rest)
      else if isWord c then
        some (.bareword (String.ofList ((c :: cs).takeWhile isWord)),
          (c :: cs).dropWhile isWord)
      else none

/-- What follows a key: an equals sign between white space, and a value. -/
def assignmentAt? (cs : List Char) : Option (ClauseValue × List Char) :=
  match cs.dropWhile isBlank with
  | '=' :: rest => valueAt? (rest.dropWhile isBlank)
  | _ => none

theorem untilChar?_length {close : Char} {cs inner rest : List Char}
    (h : untilChar? close cs = some (inner, rest)) :
    rest.length < cs.length := by
  induction cs generalizing inner with
  | nil => simp [untilChar?] at h
  | cons c cs ih =>
      rw [untilChar?] at h
      split at h
      · simp only [Option.some.injEq, Prod.mk.injEq] at h
        simp [h.2]
      · obtain ⟨⟨i, r⟩, hr, heq⟩ := Option.map_eq_some_iff.1 h
        simp only [Prod.mk.injEq] at heq
        obtain ⟨-, rfl⟩ := heq
        have := ih hr
        simp only [List.length_cons]
        omega

theorem map_untilChar?_length {close : Char} {cs rest : List Char}
    {value : ClauseValue} {kind : String → ClauseValue}
    (h : (untilChar? close cs).map
      (fun (inner, rest) => (kind (String.ofList inner), rest)) =
      some (value, rest)) : rest.length < cs.length := by
  obtain ⟨⟨inner, after⟩, hinner, heq⟩ := Option.map_eq_some_iff.1 h
  obtain ⟨-, rfl⟩ := Prod.mk.inj heq
  exact untilChar?_length hinner

theorem dropWhile_length_le (p : Char → Bool) (cs : List Char) :
    (cs.dropWhile p).length ≤ cs.length :=
  (List.dropWhile_suffix p).length_le

theorem takeNumber_length (cs : List Char) :
    (takeNumber cs).2.length ≤ cs.length := by
  have hle := dropWhile_length_le isDecimal cs
  unfold takeNumber
  split
  next tail heq =>
    rw [heq] at hle
    have := dropWhile_length_le isDecimal tail
    simp only [List.length_cons] at hle
    dsimp only
    split <;> simp only [List.length_cons] <;> omega
  next => exact hle

theorem valueAt?_length {cs rest : List Char} {value : ClauseValue}
    (h : valueAt? cs = some (value, rest)) : rest.length ≤ cs.length := by
  cases cs with
  | nil => cases h
  | cons c cs =>
      rw [valueAt?] at h
      split at h
      next => exact Nat.le_of_lt (Nat.lt_succ_of_lt (map_untilChar?_length h))
      split at h
      next => exact Nat.le_of_lt (Nat.lt_succ_of_lt (map_untilChar?_length h))
      split at h
      next => exact Nat.le_of_lt (Nat.lt_succ_of_lt (map_untilChar?_length h))
      split at h
      next =>
          obtain ⟨-, rfl⟩ := Prod.mk.inj (Option.some.inj h)
          exact takeNumber_length (c :: cs)
      split at h
      next =>
          obtain ⟨-, rfl⟩ := Prod.mk.inj (Option.some.inj h)
          exact dropWhile_length_le isWord (c :: cs)
      next => cases h

theorem assignmentAt?_length {cs rest : List Char} {value : ClauseValue}
    (h : assignmentAt? cs = some (value, rest)) : rest.length < cs.length := by
  unfold assignmentAt? at h
  split at h
  next tail heq =>
    have h1 := dropWhile_length_le isBlank cs
    have h2 := dropWhile_length_le isBlank tail
    have h3 := valueAt?_length h
    rw [heq] at h1
    simp only [List.length_cons] at h1
    omega
  next => simp at h

/-- The clauses of a text from left to right.  A key is a whole run of word
characters; a run that begins no clause is skipped as a whole, since no later
start inside it could begin one either. -/
def scan : List Char → List Clause
  | [] => []
  | c :: cs =>
      if isWord c then
        match _h : assignmentAt? (cs.dropWhile isWord) with
        | some (value, rest) =>
            ⟨String.ofList (c :: cs.takeWhile isWord), value⟩ :: scan rest
        | none => scan (cs.dropWhile isWord)
      else scan cs
termination_by cs => cs.length
decreasing_by
  · have h1 := dropWhile_length_le isWord cs
    have h2 := assignmentAt?_length _h
    simp only [List.length_cons]
    omega
  · have h1 := dropWhile_length_le isWord cs
    simp only [List.length_cons]
    omega
  · simp

/-- The clauses of a configuration text. -/
def ofConfig (config : String) : List Clause :=
  scan config.toList

end Clause

end Stencil

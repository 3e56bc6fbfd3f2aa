/-
Declarations in a template.  A declaration is a comment that names a variable
and lists clauses:

  open brace, number sign, hyphen, white space, `@variable`, white space, the
  name, a colon, text without a hyphen, hyphen, number sign, close brace.

The configuration text cannot contain a hyphen, which also keeps it from
running past the end of its comment.
-/
import Stencil.Schema.Clause
import Stencil.Schema.Variable

namespace Stencil

open Text

/-- A declaration as it stands in a template. -/
structure Declaration where
  name : String
  config : String
deriving DecidableEq, Repr

namespace Declaration

/-- Open brace, number sign, hyphen. -/
def opening : List Char := ['{', '#', '-']

/-- Hyphen, number sign, close brace. -/
def closing : List Char := ['-', '#', '}']

def keyword : List Char := ['@', 'v', 'a', 'r', 'i', 'a', 'b', 'l', 'e']

/-- The text between the colon and the end, less its leading white space; of a
blank text the last character stays. -/
def configOf (body : List Char) : List Char :=
  match body.dropWhile isBlank with
  | [] => body.drop (body.length - 1)
  | rest => rest

/-- The declaration that begins at the head of a text, and what follows it. -/
def at? (cs : List Char) : Option (Declaration × List Char) := do
  let afterOpening ← opening.isPrefixOf? cs
  let afterKeyword ← keyword.isPrefixOf? (afterOpening.dropWhile isBlank)
  let atName := afterKeyword.dropWhile isBlank
  let name := atName.takeWhile isWord
  let afterName := atName.dropWhile isWord
  let body := (afterName.drop 1).takeWhile (· ≠ '-')
  let atClosing := (afterName.drop 1).dropWhile (· ≠ '-')
  let rest ← closing.isPrefixOf? atClosing
  if (afterKeyword.takeWhile isBlank).isEmpty || name.isEmpty || body.isEmpty ||
      afterName.head? != some ':' then none
  else some (⟨String.ofList name, String.ofList (configOf body)⟩, rest)

theorem at?_length {cs rest : List Char} {d : Declaration}
    (h : at? cs = some (d, rest)) : rest.length < cs.length := by
  simp only [at?, Option.bind_eq_bind, Option.bind_eq_some_iff] at h
  obtain ⟨a, ha, b, hb, c, hc, h⟩ := h
  split at h
  · simp at h
  · simp only [Option.some.injEq, Prod.mk.injEq] at h
    obtain ⟨-, rfl⟩ := h
    have h0 := isPrefixOf?_length ha
    have h1 := isPrefixOf?_length hb
    have h2 := isPrefixOf?_length hc
    have h3 := Clause.dropWhile_length_le isBlank a
    have h4 := Clause.dropWhile_length_le isBlank b
    have h5 := Clause.dropWhile_length_le isWord (b.dropWhile isBlank)
    have h6 := Clause.dropWhile_length_le (· ≠ '-')
      (((b.dropWhile isBlank).dropWhile isWord).drop 1)
    simp only [opening, List.length_cons, List.length_nil,
      List.length_drop] at h0 h6
    omega

/-- The declarations of a text from left to right.  The search goes on after
the end of a declaration that was found. -/
def scan : List Char → List Declaration
  | [] => []
  | c :: cs =>
      match _h : at? (c :: cs) with
      | some (d, rest) => d :: scan rest
      | none => scan cs
termination_by cs => cs.length
decreasing_by
  · exact at?_length _h
  · simp

/-- Words are compared without regard to the case of ASCII letters. -/
def isTrueWord (s : String) : Bool :=
  s.toList.map Char.toLower = "true".toList

/-- The options of a list: each piece between commas without white space and
without quotes around it. -/
def optionsOf (text : String) : List String :=
  (text.toList.splitOn ',').map fun piece =>
    String.ofList
      (trimWhere (· == '\'') (trimWhere (· == '"') (trimBlanks piece)))

/-- What a clause says about a variable.  Unknown keys and limits that are not
numerals say nothing. -/
def apply (v : Variable) (clause : Clause) : Variable :=
  let text := clause.value.text
  match clause.key with
  | "type" => { v with type := VarType.ofToken text }
  | "label" => { v with label := text }
  | "required" => { v with required := isTrueWord text }
  | "options" => { v with options := optionsOf text }
  | "min" => { v with min := (Bound.ofLiteral? text).or v.min }
  | "max" => { v with max := (Bound.ofLiteral? text).or v.max }
  | "default" => { v with default := some text }
  | "placeholder" => { v with placeholder := some text }
  | "description" => { v with description := some text }
  | _ => v

/-- The variable that a name and a configuration text declare. -/
def toVariable (d : Declaration) : Variable :=
  (Clause.ofConfig d.config).foldl apply { name := d.name }

end Declaration

/-- The variables that a template declares, in the order of the text. -/
def Schema.ofTemplate (template : String) : Schema :=
  (Declaration.scan template.toList).map Declaration.toVariable

end Stencil

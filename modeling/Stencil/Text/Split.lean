/-
Cutting text: trimming white space, splitting at a separator, searching for
the first place where a piece of text stands.  Everything is defined on lists
of characters; the string versions only convert.
-/
import Stencil.Text.Class

namespace Stencil.Text

/-- The text without the leading characters that satisfy `p` and without the
trailing ones. -/
def trimWhere (p : Char → Bool) (cs : List Char) : List Char :=
  ((cs.dropWhile p).reverse.dropWhile p).reverse

/-- The text without surrounding white space. -/
def trimBlanks (cs : List Char) : List Char :=
  trimWhere isBlank cs

/-- The text without white space at its end. -/
def trimBlanksEnd (cs : List Char) : List Char :=
  (cs.reverse.dropWhile isBlank).reverse

/-- The text before the first place where `piece` stands, and the text after
that piece. -/
def splitAtFirst? (piece : List Char) :
    List Char → Option (List Char × List Char)
  | [] =>
      match piece.isPrefixOf? [] with
      | some rest => some ([], rest)
      | none => none
  | c :: cs =>
      match piece.isPrefixOf? (c :: cs) with
      | some rest => some ([], rest)
      | none => (splitAtFirst? piece cs).map fun (before, rest) =>
          (c :: before, rest)

/-- Replace every occurrence of a non-empty piece, from left to right. -/
def replaceAll (piece target : List Char) (cs : List Char) : List Char :=
  go cs.length cs
where
  go : Nat → List Char → List Char
    | 0, cs => cs
    | fuel + 1, cs =>
        match splitAtFirst? piece cs with
        | some (before, rest) => before ++ target ++ go fuel rest
        | none => cs

/-- The string without surrounding white space. -/
def trim (s : String) : String :=
  String.ofList (trimBlanks s.toList)

/-- A string cut at every separator. -/
def splitString (sep : Char) (s : String) : List String :=
  (s.toList.splitOn sep).map String.ofList

theorem isPrefixOf?_length {piece cs rest : List Char}
    (h : piece.isPrefixOf? cs = some rest) :
    piece.length + rest.length = cs.length := by
  induction piece generalizing cs with
  | nil =>
      obtain rfl : cs = rest := Option.some.inj h
      exact Nat.zero_add _
  | cons p ps ih =>
      cases cs with
      | nil => cases h
      | cons c cs =>
          change (if p == c then ps.isPrefixOf? cs else none) = some rest at h
          split at h
          next =>
              have hrest := ih h
              simp only [List.length_cons]
              omega
          next => cases h

example : splitString ',' "a,,b" = ["a", "", "b"] := by decide
example : splitString ',' "" = [""] := by decide

end Stencil.Text

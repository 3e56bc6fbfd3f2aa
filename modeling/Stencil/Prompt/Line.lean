/-
A line of text that the user edits, with a cursor between two characters.
-/
import Stencil.Prompt.Key
import Stencil.Text.Class

namespace Stencil

/-- The text before the cursor, the nearest character first, and the text
after it. -/
structure Line where
  before : List Char
  after : List Char
deriving DecidableEq, Repr

namespace Line

def empty : Line := ⟨[], []⟩

def text (line : Line) : List Char :=
  line.before.reverse ++ line.after

/-- Move the cursor back over some of the characters before it. -/
def back (line : Line) (count : Nat) : Line :=
  ⟨line.before.drop count, (line.before.take count).reverse ++ line.after⟩

/-- Move the cursor forth over some of the characters after it. -/
def forth (line : Line) (count : Nat) : Line :=
  ⟨(line.after.take count).reverse ++ line.before, line.after.drop count⟩

/-- How far back the word before the cursor begins, white space between them
included. -/
def wordBack (line : Line) : Nat :=
  let blanks := line.before.takeWhile Text.isBlank
  let word := (line.before.drop blanks.length).takeWhile fun c =>
    !Text.isBlank c
  blanks.length + word.length

/-- How far the next white space after the cursor reaches, or the whole text
after it if there is no white space. -/
def wordForth (line : Line) : Nat :=
  let word := line.after.takeWhile fun c => !Text.isBlank c
  let blanks := (line.after.drop word.length).takeWhile Text.isBlank
  word.length + blanks.length

/-- Whether a typed character is put into the line. -/
def isTypeable (c : Char) : Bool :=
  !(c.toNat < 0x20 || c.toNat == 0x7F)

/-- Edit the line by a key.  Keys without a meaning leave it as it is. -/
def press (line : Line) : Key → Line
  | .backspace => ⟨line.before.drop 1, line.after⟩
  | .left => line.back 1
  | .right => line.forth 1
  | .wordLeft => line.back line.wordBack
  | .wordRight => line.forth line.wordForth
  | .char c => if isTypeable c then ⟨c :: line.before, line.after⟩ else line
  | _ => line

end Line

end Stencil

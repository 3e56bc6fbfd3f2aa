/-
How many columns of a terminal a line takes.  Marks take none, wide characters
two, and several characters may join into one emoji of two columns.
-/
import Stencil.Text.Class
import Stencil.Text.WidthRanges

namespace Stencil.Text

/-- The columns of a character by itself. -/
def charWidth (c : Char) : Nat :=
  let n := c.toNat
  if n < 128 then 1
  else if inRanges zeroWidthRanges n then 0
  else if inRanges wideRanges n then 2
  else 1

/-- Whether a selector turns the narrow character into an emoji. -/
def isTextEmoji (c : Char) : Bool :=
  if c.toNat < 128 then c.isDigit || c == '#' || c == '*'
    else inRanges textEmojiRanges c.toNat

/-- Whether the character changes the colour of an emoji before it. -/
def isEmojiModifier (c : Char) : Bool :=
  0x1F3FB ≤ c.toNat && c.toNat ≤ 0x1F3FF

/-- What precedes a place in a line. -/
inductive WidthContext where
  | plain
  | textEmoji
  | emoji
  | joinedEmoji
deriving DecidableEq, Repr

/-- The columns that a character adds, and what it is for the next one. -/
def WidthContext.step (context : WidthContext) (c : Char) :
    Nat × WidthContext :=
  if c = '\uFE0F' then
    if context = textEmoji then (1, emoji) else (0, context)
  else if c = '\u200D' then (0, if context = emoji then joinedEmoji else plain)
  else if isEmojiModifier c ∧ context ≠ plain then (0, emoji)
  else
    let width := charWidth c
    if context = joinedEmoji ∧ (width = 2 ∨ isTextEmoji c) then (0, emoji)
    else (width,
      if width = 2 then emoji else if isTextEmoji c then textEmoji else plain)

/-- The columns of what follows a place in a line. -/
def widthAfter (context : WidthContext) : List Char → Nat
  | [] => 0
  | c :: cs =>
      let (width, context) := context.step c
      width + widthAfter context cs

/-- The columns of a line. -/
def width (cs : List Char) : Nat :=
  widthAfter .plain cs

example : width ['a', 'e', '\u0301'] = 2 := by decide +kernel
example : width ['ラ', '\u2764', '\uFE0F'] = 4 := by decide +kernel

end Stencil.Text

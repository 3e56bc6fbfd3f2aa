/-
Character classes.  White space, decimal digits and word characters are the
Unicode classes of those names, so a class test is an arithmetic test on the
code point below U+0080 and a look-up in a table of ranges above it.
-/
import Stencil.Text.NumeralRanges
import Stencil.Text.WordRanges

namespace Stencil.Text

/-- Whether a code point lies in one of the ranges, ends included. -/
def inRanges (ranges : List (Nat × Nat)) (n : Nat) : Bool :=
  ranges.any fun range => range.1 ≤ n && n ≤ range.2

/-- Unicode white space. -/
def isBlank (c : Char) : Bool :=
  let n := c.toNat
  (9 ≤ n && n ≤ 13) || n == 0x20 || n == 0x85 || n == 0xA0 || n == 0x1680 ||
    (0x2000 ≤ n && n ≤ 0x200A) || n == 0x2028 || n == 0x2029 || n == 0x202F ||
    n == 0x205F || n == 0x3000

/-- A decimal digit of any script. -/
def isDecimal (c : Char) : Bool :=
  if c.toNat < 128 then c.isDigit else inRanges decimalRanges c.toNat

/-- A word character: a letter, mark, decimal digit, connector or join control
of any script. -/
def isWord (c : Char) : Bool :=
  if c.toNat < 128 then c.isAlphanum || c == '_'
    else inRanges wordRanges c.toNat

/-- An alphabetic character or a number of any script. -/
def isLetterOrNumber (c : Char) : Bool :=
  if c.toNat < 128 then c.isAlphanum else inRanges letterOrNumberRanges c.toNat

example : isBlank '\u2003' = true := by decide
example : isBlank '\u200B' = false := by decide
example : isWord '_' = true ∧ isWord '-' = false := by decide
example : wordRanges.length = 798 ∧ decimalRanges.length = 71 := by
  decide +kernel

end Stencil.Text

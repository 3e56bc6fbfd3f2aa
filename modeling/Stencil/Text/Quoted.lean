/-
Strings in quotes as a template shows them inside a list: quotes, backslashes
and characters that do not show are escaped.
-/
import Stencil.Text.Class
import Stencil.Text.HiddenRanges

namespace Stencil.Text

/-- Whether a character does not show by itself. -/
def isHidden (c : Char) : Bool :=
  if c.toNat < 128 then c.toNat < 32 || c.toNat == 127
    else inRanges hiddenRanges c.toNat

/-- A code point in braces, in hexadecimal digits. -/
def codePointEscape (n : Nat) : List Char :=
  '\\' :: 'u' :: '\x7b' :: Nat.toDigits 16 n ++ ['\x7d']

def shownChar (c : Char) : List Char :=
  if c = '"' then ['\\', '"']
  else if c = '\\' then ['\\', '\\']
  else if c = '\n' then ['\\', 'n']
  else if c = '\r' then ['\\', 'r']
  else if c = '\t' then ['\\', 't']
  else if c.toNat = 0 then ['\\', '0']
  else if isHidden c then codePointEscape c.toNat
  else [c]

/-- A string in quotes. -/
def shown (cs : List Char) : List Char :=
  '"' :: cs.flatMap shownChar ++ ['"']

example : shown ['a', '"', '\x1b'] =
    ['"', 'a', '\\', '"', '\\', 'u', '\x7b', '1', 'b', '\x7d', '"'] := by
  decide +kernel

end Stencil.Text

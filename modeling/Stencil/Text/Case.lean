/-
Upper and lower case.  A character may have an upper case of several
characters.  A capital sigma is written in its final form at the end of a
word.
-/
import Stencil.Text.CaseRuns
import Stencil.Text.CasedRanges
import Stencil.Text.Class

namespace Stencil.Text

/-- Whether a code point belongs to a run. -/
def CaseRun.contains (run : CaseRun) (n : Nat) : Bool :=
  run.first ≤ n && n ≤ run.last && (n - run.first) % run.step == 0

/-- The code point that the runs map a code point to. -/
def mapByRuns (runs : List CaseRun) (n : Nat) : Nat :=
  match runs.find? (·.contains n) with
  | some run => ((n : Int) + run.distance).toNat
  | none => n

/-- The upper case of a character. -/
def upperChar (c : Char) : List Char :=
  if c.toNat < 128 then [c.toUpper]
  else
    match upperExpansions.lookup c.toNat with
    | some codes => codes.map Char.ofNat
    | none => [Char.ofNat (mapByRuns upperRuns c.toNat)]

/-- The lower case of a character. -/
def lowerChar (c : Char) : List Char :=
  if c.toNat < 128 then [c.toLower]
  else if c.toNat = 0x130 then ['i', '\u0307']
  else [Char.ofNat (mapByRuns lowerRuns c.toNat)]

/-- Whether a character has case. -/
def isCased (c : Char) : Bool :=
  if c.toNat < 128 then c.isAlpha else inRanges casedRanges c.toNat

/-- Whether a character is passed over when case is looked at. -/
def isCaseIgnorable (c : Char) : Bool :=
  if c.toNat < 128 then [0x27, 0x2E, 0x3A, 0x5E, 0x60].contains c.toNat
  else inRanges caseIgnorableRanges c.toNat

/-- Whether a cased character comes first, ignorable ones aside. -/
def startsCased (cs : List Char) : Bool :=
  match cs.dropWhile isCaseIgnorable with
  | c :: _ => isCased c
  | [] => false

def upper (cs : List Char) : List Char :=
  cs.flatMap upperChar

/-- Lower case, given the characters before the text in reverse. -/
def lowerAfter (before : List Char) : List Char → List Char
  | [] => []
  | c :: cs =>
      let low :=
        if c = '\u03A3' then
          if startsCased before && !startsCased cs then ['\u03C2']
            else ['\u03C3']
        else lowerChar c
      low ++ lowerAfter (c :: before) cs

def lower (cs : List Char) : List Char :=
  lowerAfter [] cs

/-- Upper case first character, the rest in lower case. -/
def capitalize : List Char → List Char
  | [] => []
  | c :: cs => upperChar c ++ lower cs

/-- Whether a character is punctuation of ASCII. -/
def isAsciiPunctuation (c : Char) : Bool :=
  33 ≤ c.toNat && c.toNat ≤ 126 && !c.isAlphanum

/-- Upper case at the start of words and lower case within; `start` says
whether a word may start here. -/
def titleFrom (start : Bool) : List Char → List Char
  | [] => []
  | c :: cs =>
      if isAsciiPunctuation c || isBlank c then c :: titleFrom true cs
      else (if start then upperChar c else lowerChar c) ++ titleFrom false cs

def title (cs : List Char) : List Char :=
  titleFrom true cs

example : upper ['ß', 'é'] = ['S', 'S', 'É'] := by decide +kernel
example : lower ['Σ', 'Α', 'Σ'] = ['σ', 'α', 'ς'] := by decide +kernel

end Stencil.Text

/-
The segments of a template: text, output tags and statement tags.  Comments
leave nothing behind, and a raw block is text.  A minus sign at a tag removes
the white space between it and the neighbouring text.
-/
import Stencil.Template.Lexeme

namespace Stencil.Template

inductive Segment where
  | text (chars : List Char)
  | output (lexemes : List Lexeme) (line : Nat)
  | statement (lexemes : List Lexeme) (line : Nat)
  | broken
deriving DecidableEq, Repr

/-- The kinds of tags. -/
inductive TagKind where
  | output
  | statement
  | comment
deriving DecidableEq, Repr

/-- The kind that the second character of a tag names. -/
def TagKind.ofChar? : Char → Option TagKind
  | '\x7b' => some output
  | '%' => some statement
  | '#' => some comment
  | _ => none

namespace Segment

/-- The text before the first tag, the kind of the tag and what follows its
two opening characters. -/
def splitAtTag : List Char → List Char × Option (TagKind × List Char)
  | [] => ([], none)
  | c :: cs =>
      match (if c = '\x7b' then cs.head?.bind TagKind.ofChar? else none) with
      | some kind => ([], some (kind, cs.drop 1))
      | none =>
          let (lead, tag) := splitAtTag cs
          (c :: lead, tag)

/-- The sign after the opening of a tag: whether it asks for trimming before
the tag, and the rest. -/
def takeTrimSign : List Char → Bool × List Char
  | '-' :: cs => (true, cs)
  | '+' :: cs => (false, cs)
  | cs => (false, cs)

/-- Whether a tag asks for trimming before it.  The sign of a comment that holds
nothing else belongs to its end. -/
def trimsBefore (kind : TagKind) (afterOpening : List Char) : Bool :=
  (takeTrimSign afterOpening).1 &&
    !(kind == .comment && (['-', '#', '\x7d'].isPrefixOf? afterOpening).isSome)

/-- The end of a statement tag that holds a single word: whether it asks for
trimming, and the rest after it. -/
def readBareTag? (word : String) (cs : List Char) :
    Option (Bool × List Char) := do
  let rest ← word.toList.isPrefixOf? (cs.dropWhile isCodeBlank)
  let (trim, rest) := takeTrimSign (rest.dropWhile isCodeBlank)
  let rest ← ['%', '\x7d'].isPrefixOf? rest
  some (trim, rest)

/-- A raw block after its opening tag. -/
structure RawBlock where
  body : List Char
  trimBody : Bool
  trimAfter : Bool
  rest : List Char

/-- The body of a raw block up to its closing tag. -/
def takeRaw? : List Char → Option RawBlock
  | [] => none
  | c :: cs =>
      let here :=
        match ['\x7b', '%'].isPrefixOf? (c :: cs) with
        | some rest =>
            let (trimBody, rest) := takeTrimSign rest
            (readBareTag? "endraw" rest).map fun (trimAfter, rest) =>
              RawBlock.mk [] trimBody trimAfter rest
        | none => none
      match here with
      | some block => some block
      | none => (takeRaw? cs).map fun block =>
          { block with body := c :: block.body }

/-- The text of a raw block after trimming. -/
def RawBlock.text (block : RawBlock) (trimStart : Bool) : List Char :=
  let body := if trimStart then block.body.dropWhile Text.isBlank
    else block.body
  if block.trimBody then Text.trimBlanksEnd body else body

/-- A text segment, unless there is no text. -/
def ofText (cs : List Char) : List Segment :=
  if cs.isEmpty then [] else [text cs]

/-- What a tag stands for, whether it asks for trimming after it, and how the
text goes on.  The text begins after the two opening characters. -/
def readTag (kind : TagKind) (line : Nat) (afterOpening : List Char) :
    List Segment × Bool × List Char :=
  let (sign, inner) := takeTrimSign afterOpening
  match kind with
  | .comment =>
      match Text.splitAtFirst? ['#', '\x7d'] inner with
      | some (body, rest) =>
          ([], (if body.isEmpty then sign else body.getLast? == some '-'), rest)
      | none => ([broken], false, [])
  | .output =>
      let content := TagContent.read '\x7d' 0 line inner
      ([output content.lexemes line], content.trimAfter, content.rest)
  | .statement =>
      match readBareTag? "raw" inner with
      | some (trimStart, inner) =>
          match takeRaw? inner with
          | some block =>
              (ofText (block.text trimStart), block.trimAfter, block.rest)
          | none => ([broken], false, [])
      | none =>
          let content := TagContent.read '%' 0 line inner
          ([statement content.lexemes line], content.trimAfter, content.rest)

/-- The segments of a text; `trim` says whether white space at its start is to
be removed. -/
def scan (trim : Bool) (line : Nat) (cs : List Char) : List Segment :=
  let start := if trim then cs.dropWhile Text.isBlank else cs
  let (lead, tag) := splitAtTag start
  match tag with
  | none => ofText lead
  | some (kind, afterOpening) =>
      let kept :=
        if trimsBefore kind afterOpening then Text.trimBlanksEnd lead else lead
      let tagLine := line + cs.count '\n' - afterOpening.count '\n'
      let (segments, trimAfter, rest) := readTag kind tagLine afterOpening
      if _h : rest.length < cs.length then
        ofText kept ++ segments ++
          scan trimAfter (line + cs.count '\n' - rest.count '\n') rest
      else [broken]
termination_by cs.length

/-- The text without one final line break. -/
def dropFinalBreak (cs : List Char) : List Char :=
  let cs := if cs.getLast? = some '\n' then cs.dropLast else cs
  if cs.getLast? = some '\r' then cs.dropLast else cs

/-- The segments of a template. -/
def ofTemplate (template : String) : List Segment :=
  scan false 1 (dropFinalBreak template.toList)

example : ofTemplate "a \x7b#- b -#\x7d c\n" = [text ['a'], text ['c']] := by
  decide +kernel
example : ofTemplate "\x7b%raw%\x7d\x7b\x7b\x7b%endraw-%\x7d x" =
    [text ['\x7b', '\x7b'], text ['x']] := by decide +kernel

end Segment

end Stencil.Template

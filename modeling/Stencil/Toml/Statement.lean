/-
The lines of a settings file: headers of tables, headers of list items, and
pairs of a key and a value.  A file is the list of its statements, and its
content is the table that they build up one after the other.
-/
import Stencil.Toml.Scalar

namespace Stencil.Toml

/-- A key or header, as the list of its words. -/
abbrev Path := List String

inductive Statement where
  | header (path : Path) (key : String)
  | item (path : Path) (key : String)
  | pair (path : Path) (value : Toml)
deriving Repr

def isKeyChar (c : Char) : Bool :=
  c.isAlphanum || c == '_' || c == '-'

/-- One word of a key: bare, or quoted on a single line. -/
def readKeyWord? (cs : List Char) : Option (String × List Char) :=
  match readString? cs with
  | some (form, word, rest) =>
      if form.spansLines then none else some (word, rest)
  | none =>
      let word := cs.takeWhile isKeyChar
      if word.isEmpty then none
        else some (String.ofList word, cs.dropWhile isKeyChar)

/-- The words of a key, with points between them.  Every word takes a
character, so the length of the text bounds their number. -/
def readPath? : Nat → List Char → Option (Path × List Char)
  | 0, _ => none
  | fuel + 1, cs => do
      let (word, rest) ← readKeyWord? (cs.dropWhile isBlank)
      match rest.dropWhile isBlank with
      | '.' :: rest =>
          let (path, rest) ← readPath? fuel rest
          some (word :: path, rest)
      | rest => some ([word], rest)

/-- The text after blanks, line breaks and comments. -/
def skipFiller (inComment : Bool) : List Char → List Char
  | [] => []
  | '\r' :: '\n' :: cs => skipFiller false cs
  | c :: cs =>
      if c = '\n' then skipFiller false cs
      else if inComment then
        if isPlain c then skipFiller true cs else c :: cs
      else if isBlank c then skipFiller false cs
      else if c = '#' then skipFiller true cs
      else c :: cs

/-- The values after an opening bracket, up to the closing one. -/
def readItems? (value : List Char → Option (Toml × List Char)) :
    Nat → List Char → Option (List Toml × List Char)
  | 0, _ => none
  | fuel + 1, cs =>
      match skipFiller false cs with
      | ']' :: rest => some ([], rest)
      | cs => do
          let (item, rest) ← value cs
          match skipFiller false rest with
          | ']' :: rest => some ([item], rest)
          | ',' :: rest =>
              let (items, rest) ← readItems? value fuel rest
              some (item :: items, rest)
          | _ => none

/-- A key, an equals sign and a value. -/
def readPair? (value : List Char → Option (Toml × List Char)) (cs : List Char) :
    Option (Path × Toml × List Char) := do
  let (path, rest) ← readPath? (cs.length + 1) cs
  match rest with
  | '=' :: rest =>
      let (content, rest) ← value (rest.dropWhile isBlank)
      some (path, content, rest)
  | _ => none

/-- The pairs after an opening brace, up to the closing one, added to a
table. -/
def readFields? (value : List Char → Option (Toml × List Char)) :
    Nat → Fields → List Char → Option (Fields × List Char)
  | 0, _, _ => none
  | fuel + 1, fields, cs =>
      match skipFiller false cs with
      | '}' :: rest => some (fields, rest)
      | cs => do
          let (path, content, rest) ← readPair? value cs
          let fields ← insert? content true path fields
          match skipFiller false rest with
          | '}' :: rest => some (fields, rest)
          | ',' :: rest => readFields? value fuel fields rest
          | _ => none

/-- A value in which lists and tables are nested at most `depth` deep. -/
def readValue? : Nat → List Char → Option (Toml × List Char)
  | 0, _ => none
  | depth + 1, cs =>
      match cs with
      | '[' :: rest =>
          (readItems? (readValue? depth) (rest.length + 1) rest).map
            fun (items, rest) => (array items, rest)
      | '{' :: rest =>
          (readFields? (readValue? depth) (rest.length + 1) [] rest).map
            fun (fields, rest) => (table .inline fields, rest)
      | _ =>
          match takeOpening? cs with
          | some _ => (readString? cs).map fun (_, text, rest) =>
              (string text, rest)
          | none =>
              let (word, rest) := takeWord cs
              (ofWord? word).map (·, rest)

/-- The deepest nesting of a value that is read, the value itself included. -/
def maxDepth : Nat := 81

/-- The words between the brackets of a header, parted into the last one and
those before it. -/
def readHeader? (cs : List Char) : Option (Path × String × List Char) := do
  let (path, rest) ← readPath? (cs.length + 1) cs
  let key ← path.getLast?
  let rest ← expect? ']' rest
  some (path.dropLast, key, rest)

def readStatement? (cs : List Char) : Option (Statement × List Char) :=
  match cs with
  | '[' :: '[' :: rest => do
      let (path, key, rest) ← readHeader? rest
      let rest ← expect? ']' rest
      some (.item path key, rest)
  | '[' :: rest => (readHeader? rest).map fun (path, key, rest) =>
      (.header path key, rest)
  | _ => (readPair? (readValue? maxDepth) cs).map
      fun (path, value, rest) => (.pair path value, rest)

/-- The text of the lines after the one that a statement stands on.  The
statement may be followed by blanks and a comment. -/
def takeLineEnd? (cs : List Char) : Option (List Char) :=
  let rest := cs.dropWhile isBlank
  let rest :=
    match rest with
    | '#' :: comment => comment.dropWhile isPlain
    | _ => rest
  if rest.isEmpty then some [] else takeBreak? rest

/-- All statements of a text.  Every statement takes a character, so the length
of the text bounds their number. -/
def readStatements? : Nat → List Char → Option (List Statement)
  | 0, _ => none
  | fuel + 1, cs =>
      match skipFiller false cs with
      | [] => some []
      | cs => do
          let (statement, rest) ← readStatement? cs
          let rest ← takeLineEnd? rest
          let statements ← readStatements? fuel rest
          some (statement :: statements)

/-- What the statements of a file have built up, and the header under which
the next pair stands. -/
structure Progress where
  fields : Fields
  header : Path

/-- Add a statement. -/
def Progress.add? (p : Progress) : Statement → Option Progress
  | .header path key =>
      (within? (openTable? key) path p.fields).map (⟨·, path ++ [key]⟩)
  | .item path key =>
      (within? (openItem? key) path p.fields).map (⟨·, path ++ [key]⟩)
  | .pair path value =>
      (within? (insert? value true path) p.header p.fields).map (⟨·, p.header⟩)

/-- The table that statements build up. -/
def ofStatements? (statements : List Statement) : Option Fields :=
  (statements.foldlM Progress.add? ⟨[], []⟩).map Progress.fields

/-- Read a whole file, which may begin with a byte order mark. -/
def ofText? (text : String) : Option Fields :=
  let cs :=
    match text.toList with
    | '\uFEFF' :: cs => cs
    | cs => cs
  (readStatements? (cs.length + 1) cs).bind ofStatements?

end Stencil.Toml

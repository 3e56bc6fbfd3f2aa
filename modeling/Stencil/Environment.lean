/-
The environment of a run: variables by name, the home directory, and paths
that refer to them.
-/
import Stencil.Entries
import Stencil.Text.Split

namespace Stencil

/-- The variables of the environment, and the home directory that the system has
on record for the user. -/
structure Environment where
  bindings : Entries String
  recordedHome : Option String := none
deriving Repr

namespace Environment

/-- An environment without variables and without a home directory. -/
def bare : Environment := { bindings := [] }

def get? (environment : Environment) (name : String) : Option String :=
  Entries.get? name environment.bindings

/-- The home directory: the one that a variable names or else the one on record.
An empty name gives none. -/
def home? (environment : Environment) : Option String :=
  ((environment.get? "HOME").filter (· ≠ "")).or
    (environment.recordedHome.filter (· ≠ ""))

/-- A path continued by a relative one. -/
def joinPath (base relative : String) : String :=
  if base = "" ∨ base.endsWith "/" then base ++ relative
  else base ++ "/" ++ relative

/-- Whether a character may stand in the name of a variable that has no
braces around it. -/
def isNameChar (c : Char) : Bool :=
  Text.isLetterOrNumber c || c == '_'

/-- The value of a reference in braces: a name, or a name and what stands for
it if it is not set.  A reference that begins with the mark between the two is
all name. -/
def braced? (environment : Environment) (inner : List Char) :
    Option (List Char) :=
  let value? := fun name =>
    (environment.get? (String.ofList name)).map String.toList
  match Text.splitAtFirst? [':', '-'] inner with
  | some (c :: name, standIn) => some ((value? (c :: name)).getD standIn)
  | _ => value? inner

/-- Replace references to variables by their values.  Every step takes at
least one character, so the length of the text bounds the number of steps. -/
def substitute? (environment : Environment) :
    Nat → List Char → Option (List Char)
  | 0, cs => some cs
  | _ + 1, [] => some []
  | fuel + 1, '$' :: '{' :: cs =>
      match Text.splitAtFirst? ['}'] cs with
      | some (inner, rest) => do
          let value ← environment.braced? inner
          let rest ← substitute? environment fuel rest
          some (value ++ rest)
      | none => (substitute? environment fuel cs).map fun cs => '$' :: '{' :: cs
  | fuel + 1, '$' :: '$' :: cs =>
      (substitute? environment fuel cs).map ('$' :: ·)
  | fuel + 1, '$' :: cs =>
      let name := cs.takeWhile isNameChar
      if name.isEmpty then (substitute? environment fuel cs).map ('$' :: ·)
      else do
        let value ← environment.get? (String.ofList name)
        let rest ← substitute? environment fuel (cs.dropWhile isNameChar)
        some (value.toList ++ rest)
  | fuel + 1, c :: cs => (substitute? environment fuel cs).map (c :: ·)

/-- Put the home directory for a tilde that stands alone or before a slash.
Without a home directory the tilde stays. -/
def expandTilde (environment : Environment) : List Char → List Char
  | '~' :: rest =>
      if rest.isEmpty || rest.head? = some '/' then
        match environment.home? with
        | some home => home.toList ++ rest
        | none => '~' :: rest
      else '~' :: rest
  | cs => cs

/-- Expand a path: first the references to variables, then a leading tilde,
unless it came out of a variable.  There is no result if a variable is not
set. -/
def expandPath? (environment : Environment) (path : String) : Option String :=
  let cs := path.toList
  (environment.substitute? cs.length cs).map fun expanded =>
    String.ofList
      (if cs.head? ≠ some '~' ∧ expanded.head? = some '~' then expanded
      else environment.expandTilde expanded)

end Environment

end Stencil

/-
What a template knows while it is evaluated: frames of names, the innermost
first, and the closures of routines.
-/
import Stencil.Entries
import Stencil.Template.Arguments

namespace Stencil.Template

/-- One frame of names. -/
structure Frame where
  locals : Entries Value := []
  /-- The state of the loop that owns the frame. -/
  loop : Option Value := none
  /-- The closure whose names are visible below the frame's own. -/
  base : Option Nat := none
  /-- The closure that follows the frame's own names. -/
  closure : Option Nat := none

structure Machine where
  frames : List Frame
  closures : List (Entries Value) := []
  /-- The depth of calls and frames outside the frames. -/
  outside : Nat := 0
  /-- The text that a filter without a subject is applied to. -/
  held : Value := .undefined false

/-- A step of an evaluation. -/
abbrev Eval := StateT Machine (Except Failure)

namespace Machine

/-- The names that are defined everywhere. -/
def builtinNames : List String := ["range", "dict"]

def builtin? (name : String) : Option Value :=
  if builtinNames.contains name then some (.builtin name) else none

/-- The names of a closure. -/
def closureNames (m : Machine) (closure : Option Nat) : Entries Value :=
  match closure with
  | some i => m.closures[i]?.getD []
  | none => []

/-- A name in one frame. -/
def frameValue? (m : Machine) (name : String) (frame : Frame) : Option Value :=
  (frame.locals.get? name).or <|
    (if name = "loop" then frame.loop else none).or <|
      (m.closureNames frame.base).get? name

/-- The value of a name. -/
def lookup? (m : Machine) (name : String) : Option Value :=
  (m.frames.findSome? (m.frameValue? name)).or (builtin? name)

/-- All names that the frames show, inner ones over outer ones. -/
def visible (m : Machine) : Entries Value :=
  m.frames.reverse.foldl (fun names frame =>
    let shown := m.closureNames frame.base ++
      (frame.loop.map fun state => ("loop", state)).toList ++ frame.locals
    shown.foldl (fun names entry => Entries.insert entry.1 entry.2 names) names)
      []

/-- The greatest depth of calls and frames. -/
def maxDepth : Nat := 500

def depth (m : Machine) : Nat :=
  m.outside + m.frames.length

end Machine

namespace Eval

/-- Report a fault at a line. -/
def report {α : Type} (line : Nat) (outcome : Outcome α) : Eval α :=
  match outcome with
  | .ok value => pure value
  | .error cause => throw (.fault cause line)

def fault {α : Type} (line : Nat) (cause : Fault) : Eval α :=
  throw (.fault cause line)

/-- Evaluate within a frame of its own. -/
def within {α : Type} (line : Nat) (frame : Frame) (action : Eval α) :
    Eval α := do
  let m ← get
  if Machine.maxDepth ≤ m.depth then
    fault line (.invalidOperation (some "recursion limit exceeded"))
  else
    set { m with frames := frame :: m.frames }
    let result ← action
    modify fun m => { m with frames := m.frames.drop 1 }
    pure result

/-- Store a value under a name in the innermost frame and in the closure that
follows it. -/
def store (name : String) (value : Value) : Eval Unit :=
  modify fun m =>
    match m.frames with
    | [] => m
    | frame :: rest =>
        let closures :=
          match frame.closure with
          | some i => m.closures.modify i (Entries.insert name value)
          | none => m.closures
        { m with
          frames :=
            { frame with
              locals := Entries.insert name value frame.locals } :: rest
          closures }

/-- The closure that follows the innermost frame.  A new one begins with all
visible names. -/
def closureHere : Eval Nat := do
  let m ← get
  match m.frames with
  | [] => pure 0
  | frame :: rest =>
      match frame.closure with
      | some i => pure i
      | none =>
          let i := m.closures.length
          set { m with
            frames := { frame with closure := some i } :: rest
            closures := m.closures ++ [m.visible] }
          pure i

/-- Whether a value counts as true.  An undefined one has no truth value. -/
def truth (line : Nat) (value : Value) : Eval Bool :=
  match value with
  | .undefined false => fault line .undefinedValue
  | value => pure value.isTrue

/-- The text of a value that is printed.  An undefined one has none. -/
def print (line : Nat) (value : Value) : Eval (List Char) :=
  match value with
  | .undefined false => fault line .undefinedValue
  | value => pure value.printed

/-- A part of a value.  A part of an undefined value is an error, a missing
part is undefined. -/
def part (line : Nat) (owner : Value) (found : Option Value) : Eval Value :=
  match found with
  | some value => pure value
  | none => if owner.isUndefined then fault line .undefinedValue
      else pure (.undefined false)

end Eval

end Stencil.Template

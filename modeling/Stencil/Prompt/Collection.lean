/-
Collecting the inputs of a template: what is provided stays, and what is
missing is asked for, or must be optional if nobody can be asked.
-/
import Stencil.Prompt.Question

namespace Stencil

/-- Why inputs could not be collected. -/
inductive CollectionError where
  | missingRequired (name : String)
  | unanswered (cause : Unanswered)
deriving DecidableEq, Repr

def Unanswered.message : Unanswered → String
  | notATerminal => "IO error: not a terminal"
  | endOfInput => "input cancelled by user"
  | interrupted => "interrupted"

def CollectionError.message : CollectionError → String
  | missingRequired name =>
      String.join ["missing required variable: ", name, "\n  Hint: use --var ",
        name, "=\"...\" or remove --batch"]
  | unanswered cause => cause.message

/-- Whether only the user could give the variable a value. -/
def Variable.needsInput (v : Variable) : Bool :=
  v.required && v.effectiveDefault.isNone

namespace Schema

/-- Accept the provided inputs unless a required variable is missing that has
no default. -/
def collectBatch (schema : Schema) (provided : RawInputs) :
    Except CollectionError RawInputs :=
  match schema.find? fun v => !provided.contains v.name && v.needsInput with
  | some v => .error (.missingRequired v.name)
  | none => .ok provided

/-- Complete the provided inputs by asking for every declared name that has no
value yet, in the order of the declarations. -/
def collectAsking {m : Type → Type} [Monad m] (ask : Variable → m Json) :
    Schema → RawInputs → m RawInputs
  | [], collected => pure collected
  | v :: rest, collected =>
      if collected.contains v.name then collectAsking ask rest collected
      else do
        let value ← ask v
        collectAsking ask rest (collected.insert v.name value)

/-- The variables to ask for: the first declaration of every name that has no
value. -/
def missing : Schema → RawInputs → Schema
  | [], _ => []
  | v :: rest, provided =>
      if provided.contains v.name then missing rest provided
      else v :: (missing rest provided).filter fun w => w.name != v.name

end Schema

end Stencil

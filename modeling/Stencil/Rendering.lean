/-
Rendering a template from raw inputs: the declared variables are extracted,
the inputs are converted to their types, and the template is evaluated with
the converted inputs in scope.
-/
import Stencil.Input.Coercion
import Stencil.Schema.Declaration
import Stencil.Template.Evaluation
import Stencil.Template.NodeReader

namespace Stencil

namespace Template

mutual

/-- The value of a JSON value. -/
def Value.ofJson : Json → Value
  | .null => .nothing
  | .bool b => .bool b
  | .integer n => .integer n
  | .number x => .float x
  | .string s => .ofChars s.toList
  | .array items => .sequence (Value.ofJsonItems items)
  | .object fields => .dict (Value.ofJsonFields fields)

def Value.ofJsonItems : List Json → List Value
  | [] => []
  | item :: rest => Value.ofJson item :: Value.ofJsonItems rest

def Value.ofJsonFields : List (String × Json) → List (Value × Value)
  | [] => []
  | (name, value) :: rest =>
      (Value.ofChars name.toList, Value.ofJson value) :: Value.ofJsonFields rest

end

/-- The value of a converted input.  Timestamps keep their fields. -/
def Value.ofTyped : TypedValue → Value
  | .string s => .ofChars s.toList
  | .integer n => .integer n
  | .number x => .float x
  | .boolean b => .bool b
  | .datetime m => .datetime m
  | .array items => .sequence (Value.ofJsonItems items)

/-- Render a template with converted inputs in scope. -/
def render (template : String) (inputs : Inputs) : Except Failure String := do
  let nodes ← Node.ofSegments (Segment.ofTemplate template)
  let text ← Node.render nodes
      (inputs.map fun input => (input.1, Value.ofTyped input.2))
  .ok (String.ofList text)

end Template

/-- Why a template could not be rendered from raw inputs. -/
inductive RenderingError where
  | coercion (cause : CoercionError)
  | template (cause : Template.Failure)
deriving DecidableEq, Repr

/-- The wording, with what the reader of templates says about one that is
malformed. -/
def RenderingError.message (detail : String) : RenderingError → String
  | coercion cause => cause.message
  | template cause => cause.message detail

/-- The rendered text with the inputs it was rendered from. -/
structure Rendering where
  result : String
  inputs : Inputs
deriving Repr

/-- Render a template from raw inputs.  Inputs that their types do not admit are
found before the template is looked at. -/
def renderTemplate (now : DateTime) (mode : CoercionMode) (template : String)
    (raw : RawInputs) : Except RenderingError Rendering :=
  match (Schema.ofTemplate template).coerce now mode raw with
  | .error e => .error (.coercion e)
  | .ok inputs =>
      match Template.render template inputs with
      | .error e => .error (.template e)
      | .ok result => .ok ⟨result, inputs⟩

end Stencil

/-
What can go wrong with a template.  A template is malformed, or a step of its
evaluation fails at a line.
-/

namespace Stencil.Template

/-- Why a step of an evaluation failed. -/
inductive Fault where
  | undefinedValue
  | invalidOperation (detail : Option String)
  | unknownMethod (kind name : String)
  | unknownFunction (name : String)
  | unknownFilter (name : String)
  | unknownTest (name : String)
  | missingArgument
  | tooManyArguments (detail : Option String)
  | noTemplateToInclude (shownName : String)
  | noTemplatesToInclude (shownNames : String)
  | noTemplateToExtend (shownName : String)
  | cannotUnpack (detail : String)
  | badEscape
deriving DecidableEq, Repr

namespace Fault

/-- A description followed by a detail, if there is one. -/
def withDetail (description : String) : Option String → String
  | some detail => description ++ ": " ++ detail
  | none => description

def message : Fault → String
  | undefinedValue => "undefined value"
  | invalidOperation detail => withDetail "invalid operation" detail
  | unknownMethod kind name =>
      String.join ["unknown method: ", kind, " has no method named ", name]
  | unknownFunction name =>
      String.join ["unknown function: ", name, " is unknown"]
  | unknownFilter name =>
      String.join ["unknown filter: filter ", name, " is unknown"]
  | unknownTest name => String.join ["unknown test: test ", name, " is unknown"]
  | missingArgument => "missing argument"
  | tooManyArguments detail => withDetail "too many arguments" detail
  | noTemplateToInclude name =>
      String.join
        ["template not found: tried to include non-existing template ", name]
  | noTemplatesToInclude names =>
      String.join
        ["template not found: tried to include one of multiple templates, ",
          "none of which existed ", names]
  | noTemplateToExtend name =>
      String.join ["template not found: template ", name, " does not exist"]
  | cannotUnpack detail => String.join ["cannot unpack: ", detail]
  | badEscape => "bad string escape"

end Fault

/-- Why a template could not be rendered. -/
inductive Failure where
  | malformed
  | fault (cause : Fault) (line : Nat)
deriving DecidableEq, Repr

namespace Failure

/-- Whether the template used a value that is not defined. -/
def isUndefined : Failure → Bool
  | fault .undefinedValue _ => true
  | _ => false

/-- The wording.  The detail is what the reader of templates says about one that
is malformed. -/
def message (detail : String) : Failure → String
  | malformed => "rendering error: invalid template syntax: " ++ detail
  | fault cause line =>
      let kind := if cause = .undefinedValue then "undefined variable: " else ""
      String.join
        ["rendering error: ", kind, cause.message, " (in <string>:",
          toString line, ")"]

end Failure

example : (Failure.fault .undefinedValue 3).message "" =
    "rendering error: undefined variable: undefined value (in <string>:3)" := by
  decide +kernel
example : Failure.malformed.message "unexpected end" =
    "rendering error: invalid template syntax: unexpected end" := by
  decide +kernel

end Stencil.Template

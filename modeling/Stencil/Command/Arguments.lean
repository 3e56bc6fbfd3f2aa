/-
The command line: which command is to be run with which options.  Options may
stand before or after the template, those of all commands also before the
command.
-/
import Stencil.Entries
import Stencil.Text.Split

namespace Stencil

structure RenderOptions where
  template : String
  assignments : List (String × String) := []
  inputs : Option String := none
  batch : Bool := false
  strict : Bool := false
  output : Option String := none
  json : Bool := false
deriving DecidableEq, Repr

inductive Command where
  | doctor
  | vars (template : String) (json : Bool)
  | render (options : RenderOptions)
deriving DecidableEq, Repr

/-- A command and the settings to run it with. -/
structure Invocation where
  config : Option String
  command : Command
deriving DecidableEq, Repr

/-- What a command line asks for. -/
inductive Request where
  | run (invocation : Invocation)
  | showVersion
  | showHelp
deriving DecidableEq, Repr

/-- What is wrong with a command line. -/
inductive UsageError where
  | unknownOption (argument : String)
  | missingValue (option : String)
  | unexpectedValue (option : String)
  | invalidValue (option value : String)
  | repeated (option : String)
  | unexpectedWord (word : String)
  | missingTemplate
  | missingCommand
  | unknownCommand (word : String)
deriving DecidableEq, Repr

def UsageError.message : UsageError → String
  | unknownOption argument =>
      String.join ["unexpected argument '", argument, "'"]
  | missingValue option =>
      String.join ["a value is required for '--", option, "'"]
  | unexpectedValue option => String.join ["'--", option, "' takes no value"]
  | invalidValue option value =>
      String.join ["invalid value '", value, "' for '--", option, "'"]
  | repeated option =>
      String.join ["'--", option, "' cannot be used multiple times"]
  | unexpectedWord word => String.join ["unexpected argument '", word, "'"]
  | missingTemplate => "a template is required"
  | missingCommand => "a command is required"
  | unknownCommand word => String.join ["unrecognized command '", word, "'"]

/-- The options that may stand at a place: those without and those with a
value, and the letters for some of the former. -/
structure OptionTable where
  switches : List String
  valued : List String
  letters : List (Char × String)

/-- What an argument is by itself. -/
inductive Argument where
  | word (text : String)
  | separator
  | switch (name : String)
  | valued (name : String) (value : Option String)
  | wrong (error : UsageError)
deriving DecidableEq, Repr

namespace OptionTable

/-- Before a command. -/
def general : OptionTable :=
  ⟨["version", "help"], ["config"], [('V', "version"), ('h', "help")]⟩

/-- After a command. -/
def ofCommand (switches valued : List String) : OptionTable :=
  ⟨"help" :: switches, "config" :: valued, [('h', "help")]⟩

/-- An option by its long name, with the value after an equals sign. -/
def longOption (table : OptionTable) (argument name : String)
    (value : Option String) : Argument :=
  if name ∈ table.valued then .valued name value
  else if name ∈ table.switches then
    if value.isSome then .wrong (.unexpectedValue name) else .switch name
  else .wrong (.unknownOption argument)

def classify (table : OptionTable) (argument : String) : Argument :=
  match argument.toList with
  | ['-', '-'] => .separator
  | '-' :: '-' :: cs =>
      match Text.splitAtFirst? ['='] cs with
      | some (name, value) =>
          table.longOption argument (String.ofList name)
            (some (String.ofList value))
      | none => table.longOption argument (String.ofList cs) none
  | '-' :: c :: _ =>
      match table.letters.lookup c with
      | some name => .switch name
      | none => .wrong (.unknownOption argument)
  | _ => .word argument

end OptionTable

/-- Whether an argument cannot be the value of the option before it. -/
def looksLikeOption (argument : String) : Bool :=
  argument.startsWith "-" && argument != "-"

/-- The arguments after a command, sorted by their kind. -/
structure Gathered where
  switches : List String := []
  values : List (String × String) := []
  words : List String := []
deriving DecidableEq, Repr

namespace Gathered

/-- Sort arguments.  Nothing after a request for help counts, and after a
separator there are only words. -/
def ofArguments (table : OptionTable) : List String → Except UsageError Gathered
  | [] => .ok {}
  | argument :: rest =>
      match table.classify argument with
      | .separator => .ok { words := rest }
      | .word text =>
          (ofArguments table rest).map fun g =>
            { g with words := text :: g.words }
      | .switch name =>
          if name = "help" then .ok { switches := ["help"] }
          else (ofArguments table rest).map fun g =>
            { g with switches := name :: g.switches }
      | .valued name (some value) =>
          (ofArguments table rest).map fun g =>
            { g with values := (name, value) :: g.values }
      | .valued name none =>
          match rest with
          | [] => .error (.missingValue name)
          | value :: rest =>
              if looksLikeOption value then .error (.missingValue name)
              else
                (ofArguments table rest).map fun g =>
                  { g with values := (name, value) :: g.values }
      | .wrong error => .error error

def has (g : Gathered) (name : String) : Bool :=
  name ∈ g.switches

def value? (g : Gathered) (name : String) : Option String :=
  g.values.lookup name

/-- The first name that occurs twice. -/
def firstRepeated? : List String → Option String
  | [] => none
  | name :: rest => if name ∈ rest then some name else firstRepeated? rest

/-- A key and its value, parted at the first equals sign. -/
def assignment? (text : String) : Option (String × String) :=
  (Text.splitAtFirst? ['='] text.toList).map fun (key, value) =>
    (String.ofList key, String.ofList value)

/-- Check an option: only assignments may be repeated, they must have an
equals sign, and a path may not be empty. -/
def checkValue (option : String × String) : Except UsageError Unit :=
  if option.1 = "var" then
    if (assignment? option.2).isSome then .ok ()
      else .error (.invalidValue option.1 option.2)
  else if option.2 = "" then .error (.invalidValue option.1 option.2)
  else .ok ()

def check (g : Gathered) : Except UsageError Unit := do
  g.values.forM checkValue
  match firstRepeated?
    (g.switches ++ (g.values.map Prod.fst).filter (· ≠ "var")) with
  | some name => .error (.repeated name)
  | none => .ok ()

/-- The only word, which is the path of a template. -/
def template (g : Gathered) : Except UsageError String :=
  match g.words with
  | [] => .error .missingTemplate
  | [path] => if path = "" then .error .missingTemplate else .ok path
  | _ :: word :: _ => .error (.unexpectedWord word)

end Gathered

namespace Command

/-- The options of a command. -/
def optionTable? : String → Option OptionTable
  | "doctor" => some (.ofCommand [] [])
  | "vars" => some (.ofCommand ["json"] [])
  | "render" =>
      some (.ofCommand ["batch", "strict", "json"] ["var", "inputs", "output"])
  | _ => none

def ofGathered (name : String) (g : Gathered) : Except UsageError Command :=
  match name with
  | "vars" => g.template.map (vars · (g.has "json"))
  | "render" => g.template.map fun template => render {
      template
      assignments := (g.values.filter (·.1 = "var")).filterMap
        (Gathered.assignment? ·.2)
      inputs := g.value? "inputs"
      batch := g.has "batch"
      strict := g.has "strict"
      output := g.value? "output"
      json := g.has "json" }
  | _ =>
      match g.words with
      | [] => .ok doctor
      | word :: _ => .error (.unexpectedWord word)

end Command

namespace Request

/-- The command of a name with its arguments.  A path of settings after the
command comes before one that stands in front of it. -/
def ofCommand (config : Option String) (name : String)
    (arguments : List String) : Except UsageError Request :=
  match Command.optionTable? name with
  | none =>
      if name = "help" then .ok .showHelp else .error (.unknownCommand name)
  | some table => do
      let g ← Gathered.ofArguments table arguments
      if g.has "help" then .ok .showHelp
      else do
        g.check
        let command ← Command.ofGathered name g
        .ok (.run ⟨(g.value? "config").orElse fun _ => config, command⟩)

/-- Read the arguments up to the command. -/
def readFrom (config : Option String) : List String → Except UsageError Request
  | [] => .error .missingCommand
  | argument :: rest =>
      match OptionTable.general.classify argument with
      | .separator =>
          .error ((rest.head?.map UsageError.unexpectedWord).getD
            .missingCommand)
      | .word name => ofCommand config name rest
      | .switch name =>
          .ok (if name = "version" then .showVersion else .showHelp)
      | .valued name (some value) =>
          if config.isSome then .error (.repeated name)
          else if value = "" then .error (.invalidValue name value)
          else readFrom (some value) rest
      | .valued name none =>
          match rest with
          | [] => .error (.missingValue name)
          | value :: rest =>
              if looksLikeOption value then .error (.missingValue name)
              else if config.isSome then .error (.repeated name)
              else if value = "" then .error (.invalidValue name value)
              else readFrom (some value) rest
      | .wrong error => .error error

/-- What a command line asks for. -/
def ofArguments (arguments : List String) : Except UsageError Request :=
  readFrom none arguments

end Request

example :
    (Request.ofArguments
      ["--config", "c.toml", "vars", "t.md", "--json"]).toOption =
    some (.run ⟨some "c.toml", .vars "t.md" true⟩) := by decide +kernel
example : (Request.ofArguments ["render", "--var", "a", "t.md"]).toOption =
    none := by
  decide +kernel

end Stencil

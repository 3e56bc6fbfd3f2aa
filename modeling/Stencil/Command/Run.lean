/-
Running a command: showing the settings, listing the variables of a template,
or rendering it.
-/
import Stencil.Command.Arguments
import Stencil.Command.Host
import Stencil.Rendering
import Stencil.Schema.Exchange
import Stencil.Text.Table

namespace Stencil

def programName : String := "templator"

def version : String := "0.1.0"

/-- Why a command failed.  A detail is what the reader of a text says about
it. -/
inductive CommandFailure where
  | settings (cause : SettingsError) (lookedFor : Option String)
  | log (path : String) (fault : FileFault)
  | template (command path : String) (fault : FileFault)
  | inputs (path : String) (fault : FileFault)
  | inputsNotAnObject (path detail : String)
  | collection (cause : CollectionError)
  | rendering (cause : RenderingError) (detail : String)
  | output (path : String) (fault : FileFault)
  | interrupted
deriving DecidableEq, Repr

/-- How a run ended: with a code and what it printed, or by an interrupt, of
which nothing is printed. -/
inductive Outcome where
  | finished (code : Nat) (output : String)
  | interrupted
deriving DecidableEq, Repr

/-- Lines of output. -/
def outputLines (lines : List String) : String :=
  String.join (lines.map (· ++ "\n"))

namespace CommandFailure

/-- The first line of what is printed about a failure. -/
def title (command : String) : String :=
  "FAIL " ++ programName ++ command

def report : CommandFailure → List String
  | settings cause lookedFor =>
      [title "", cause.message] ++ (lookedFor.map ("looked for: " ++ ·)).toList
  | template command path fault =>
      [title (" " ++ command), "failed to read template " ++ path ++ ": " ++
        fault.message]
  | inputs path fault =>
      [title " render", "failed to read inputs " ++ path ++ ": " ++
        fault.message]
  | inputsNotAnObject path detail =>
      [title " render", "inputs file " ++ path ++
        " must be a JSON object: " ++ detail]
  | collection cause => [title " render", cause.message]
  | rendering cause detail => [title " render", cause.message detail]
  | output path fault =>
      [title " render", "failed to write " ++ path ++ ": " ++ fault.message]
  | log _ _ => []
  | interrupted => []

/-- What is said besides the report. -/
def complaint? : CommandFailure → Option String
  | log path fault =>
      some (String.join ["Failed to create log file ", path, ": ",
        fault.message])
  | _ => none

def outcome : CommandFailure → Outcome
  | interrupted => .interrupted
  | failure => .finished 1 (outputLines failure.report)

end CommandFailure

namespace Settings

/-- The settings as they are shown. -/
def report (settings : Settings) (defaultPath : String) : List String :=
  ["OK   " ++ programName ++ " doctor",
    match settings.source with
    | some path => "path: " ++ path
    | none => "path: (defaults; no file at " ++ defaultPath ++ ")",
    "version: " ++ version,
    "coercion.mode: " ++ settings.mode.word,
    "logging.level: " ++ settings.log.level] ++
    (settings.log.file.map ("logging.file: " ++ ·)).toList

end Settings

namespace Schema

/-- A row of the table of variables. -/
def tableRow (v : Variable) : List String :=
  [v.name, v.type.token, v.label, if v.required then "yes" else "",
    v.default.getD "", String.intercalate ", " v.options]

/-- The variables as they are listed. -/
def listing (schema : Schema) : List String :=
  if schema.isEmpty then ["(no variables declared)"]
  else
    [Text.tableText ["Name", "Type", "Label", "Required", "Default", "Options"]
        (schema.map tableRow),
      "-- " ++ toString schema.length ++ " variables --"]

end Schema

namespace Rendering

def toJson (rendering : Rendering) : Json :=
  .object [("result", .string rendering.result),
    ("inputs", .object (rendering.inputs.map fun input =>
      (input.1, input.2.toJson)))]

end Rendering

namespace Host

variable {m : Type → Type} [Monad m]

/-- A step whose fault makes the command fail. -/
def attempt {ε α : Type} (action : m (Except ε α))
    (failure : ε → CommandFailure) : ExceptT CommandFailure m α :=
  ExceptT.mk do
    match ← action with
    | .ok value => pure (.ok value)
    | .error cause => pure (.error (failure cause))

/-- The raw inputs that a file holds. -/
def readInputs (host : Host m) (path : String) :
    ExceptT CommandFailure m RawInputs := do
  let text ← attempt (host.readText path) (.inputs path)
  match Json.objectOfText? text with
  | some inputs => pure inputs
  | none => throw (.inputsNotAnObject path (host.wording.inputs text))

/-- The inputs of the file overwritten by the assignments, the last one of a
name winning. -/
def assign (inputs : RawInputs) (assignments : List (String × String)) :
    RawInputs :=
  assignments.foldl (fun inputs pair =>
    inputs.insert pair.1 (.string pair.2)) inputs

def askFor (host : Host m) (v : Variable) : ExceptT CommandFailure m Json :=
  attempt (host.ask v) fun
    | .interrupted => .interrupted
    | cause => .collection (.unanswered cause)

/-- Complete the provided inputs: by asking if there is a user and the command
may ask. -/
def collect (host : Host m) (batch : Bool) (schema : Schema)
    (provided : RawInputs) : ExceptT CommandFailure m RawInputs := do
  if !batch && (← host.isInteractive) then
    schema.collectAsking host.askFor provided
  else attempt (pure (schema.collectBatch provided)) .collection

def runVars (host : Host m) (path : String) (json : Bool) :
    ExceptT CommandFailure m (List String) := do
  let text ← attempt (host.readText path) (.template "vars" path)
  let schema := Schema.ofTemplate text
  pure (if json then [schema.toJson.indented] else schema.listing)

/-- Render a template.  The text goes to a file if one is named, and is printed
otherwise. -/
def runRender (host : Host m) (settings : Settings) (options : RenderOptions) :
    ExceptT CommandFailure m (List String) := do
  let text ← attempt (host.readText options.template)
      (.template "render" options.template)
  let inputs ←
    match options.inputs with
    | some path => host.readInputs path
    | none => pure []
  let raw ← host.collect options.batch (Schema.ofTemplate text)
    (assign inputs options.assignments)
  let mode := if options.strict then .strict else settings.mode
  let now ← host.now
  let rendering ← attempt (pure (renderTemplate now mode text raw))
    (.rendering · (host.wording.template text))
  match options.output with
  | some path =>
      attempt (host.write path rendering.result.toUTF8) (.output path)
      pure ["OK   " ++ programName ++ " render", "wrote: " ++ path]
  | none =>
      pure [if options.json then rendering.toJson.indented
        else rendering.result]

/-- Run a command with its settings.  A log file is made anew by every run. -/
def run (host : Host m) (invocation : Invocation) :
    ExceptT CommandFailure m (List String) := do
  let defaultPath := Settings.defaultPath host.environment
  let settings ← attempt (host.loadSettings invocation.config) fun cause =>
    .settings cause
      (if invocation.config.isSome then none else some defaultPath)
  match settings.log.file with
  | some path => attempt (host.write path .empty) (.log path)
  | none => pure ()
  match invocation.command with
  | .doctor => pure (settings.report defaultPath)
  | .vars path json => host.runVars path json
  | .render options => host.runRender settings options

/-- How the program is used. -/
def usage : List String :=
  ["Usage: " ++ programName ++ " [--config PATH] COMMAND",
    "",
    "Commands:",
    "  doctor",
    "  vars TEMPLATE [--json]",
    "  render TEMPLATE [--var KEY=VALUE]... [--inputs PATH] [--batch] [--strict]",
    "         [--output PATH] [--json]"]

/-- Answer a command line. -/
def respond (host : Host m) (arguments : List String) : m Outcome := do
  match Request.ofArguments arguments with
  | .error cause =>
      host.complain cause.message
      pure (.finished 2 "")
  | .ok .showVersion =>
      pure (.finished 0 (outputLines [programName ++ " " ++ version]))
  | .ok .showHelp => pure (.finished 0 (outputLines usage))
  | .ok (.run invocation) =>
      match ← (host.run invocation).run with
      | .ok lines => pure (.finished 0 (outputLines lines))
      | .error failure =>
          failure.complaint?.forM host.complain
          pure failure.outcome

end Host

end Stencil

/-
The settings of a run: how strictly inputs are converted and what is logged.
They are read from a text in TOML, of which every part but the version may be
left out.
-/
import Stencil.Environment
import Stencil.Files.Fault
import Stencil.Input.Coercion
import Stencil.Toml.Statement

namespace Stencil

/-- What is logged.  Levels are kept as they are written. -/
structure LogSettings where
  level : String := "info"
  fileLevel : Option String := none
  file : Option String := none
deriving DecidableEq, Repr

/-- The settings, and the path of the text they were read from. -/
structure Settings where
  source : Option String := none
  mode : CoercionMode := .lenient
  log : LogSettings := {}
deriving DecidableEq, Repr

/-- Why there are no settings.  A malformed text comes with what the reader of
the format says about it. -/
inductive SettingsError where
  | notFound (path : String)
  | unreadable (path : String) (fault : FileFault)
  | malformed (path detail : String)
  | unsupportedVersion (version : Nat)
  | noHome
deriving DecidableEq, Repr

def SettingsError.message : SettingsError → String
  | notFound path => String.join ["config file not found at ", path]
  | unreadable path fault =>
      String.join ["failed to read config file ", path, ": ", fault.message]
  | malformed path detail =>
      String.join ["failed to parse TOML in ", path, ": ", detail]
  | unsupportedVersion version =>
      String.join ["version ", toString version, " is unsupported (expected 1)"]
  | noHome => "home directory not available to expand '~'"

namespace Toml

/-- The fields of a section: a table, or a list that gives the first of the
fields in their order. -/
def section? (names : List String) : Toml → Option Fields
  | table _ fields => some fields
  | value => value.items?.map names.zip

/-- A text that may be absent. -/
def optionalText? (key : String) (fields : Fields) : Option (Option String) :=
  match get? key fields with
  | none => some none
  | some (string s) => some (some s)
  | some _ => none

/-- One above the largest number of a version, which has 32 bits. -/
def versionEnd : Nat := 4294967296

/-- The version of a settings text. -/
def version? (fields : Fields) : Option Nat :=
  match get? "version" fields with
  | some (integer n) =>
      if 0 ≤ n ∧ n.toNat < versionEnd then some n.toNat else none
  | _ => none

def isEmpty : Toml → Bool
  | array items => items.isEmpty
  | table _ fields => fields.isEmpty
  | _ => false

/-- A mode is a word, or a table in which the word names an empty value. -/
def mode? : Toml → Option CoercionMode
  | string word => CoercionMode.ofWord? word
  | table _ [(word, content)] =>
      if content.isEmpty then CoercionMode.ofWord? word else none
  | _ => none

def coercionMode? (fields : Fields) : Option CoercionMode :=
  match get? "coercion" fields with
  | none => some .lenient
  | some value => do
      match get? "mode" (← section? ["mode"] value) with
      | none => some .lenient
      | some mode => mode? mode

def logSettings? (fields : Fields) : Option LogSettings :=
  match get? "logging" fields with
  | none => some {}
  | some value => do
      let fields ← section? ["level", "file_level", "file"] value
      let level ← optionalText? "level" fields
      let fileLevel ← optionalText? "file_level" fields
      let file ← optionalText? "file" fields
      some ⟨level.getD "info", fileLevel, file⟩

end Toml

namespace Settings

/-- The version of settings texts that is understood. -/
def supportedVersion : Nat := 1

/-- Expand the path of the log file. -/
def expandLog (environment : Environment) (log : LogSettings) :
    Except SettingsError LogSettings :=
  match log.file with
  | none => .ok log
  | some file =>
      match environment.expandPath? file with
      | some file => .ok { log with file := some file }
      | none => .error .noHome

/-- What a settings text says: its version, the mode and what is logged. -/
def content? (text : String) : Option (Nat × CoercionMode × LogSettings) := do
  let fields ← Toml.ofText? text
  some (← Toml.version? fields, ← Toml.coercionMode? fields,
    ← Toml.logSettings? fields)

/-- Read settings.  The whole text is checked before its version, and the
version before the path of the log file.  A text that is malformed is refused in
the words of the reader of its format. -/
def ofText (refusal : String → String) (environment : Environment)
    (path text : String) : Except SettingsError Settings :=
  match content? text with
  | none => .error (.malformed path (refusal text))
  | some (version, mode, log) =>
      if version ≠ supportedVersion then .error (.unsupportedVersion version)
      else (expandLog environment log).map fun log => ⟨some path, mode, log⟩

/-- Where settings are looked for if no path is given. -/
def defaultPath (environment : Environment) : String :=
  let base :=
    match environment.get? "XDG_CONFIG_HOME" with
    | some base => base
    | none => Environment.joinPath (environment.home?.getD "~") ".config"
  Environment.joinPath base "templator/config.toml"

example : (SettingsError.unsupportedVersion 2).message =
    "version 2 is unsupported (expected 1)" := by decide +kernel

end Settings

end Stencil

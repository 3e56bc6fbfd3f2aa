/-
What a command needs from its surroundings: files, a user who answers
questions, variables of the environment and a clock.  A session is such a
surrounding whose files and keys are values.
-/
import Stencil.Files.Tree
import Stencil.Prompt.Collection
import Stencil.Settings

namespace Stencil

/-- What is said about a text that is refused.  The words are those of the
reader that refuses it. -/
structure Wording where
  settings : String → String
  inputs : String → String
  template : String → String
deriving Inhabited

structure Host (m : Type → Type) where
  environment : Environment
  wording : Wording
  now : m DateTime
  read : String → m (Except FileFault ByteArray)
  write : String → ByteArray → m (Except FileFault Unit)
  isInteractive : m Bool
  ask : Variable → m (Except Unanswered Json)
  complain : String → m Unit

/-- Whether the fault shows that nothing stands at a path. -/
def FileFault.isAbsence : FileFault → Bool
  | missing => true
  | notADirectory => true
  | nameTooLong => true
  | invalidName => true
  | _ => false

/-- The text that bytes stand for. -/
def textOfBytes (bytes : ByteArray) : Except FileFault String :=
  match String.fromUTF8? bytes with
  | some text => .ok text
  | none => .error .notText

namespace Host

variable {m : Type → Type} [Monad m]

def readText (host : Host m) (path : String) : m (Except FileFault String) := do
  let content ← host.read path
  pure (content.bind textOfBytes)

/-- Load settings from a path, which must exist, or from the default path, for
which built-in settings stand in. -/
def loadSettings (host : Host m) (path? : Option String) :
    m (Except SettingsError Settings) := do
  let path := path?.getD (Settings.defaultPath host.environment)
  match ← host.readText path with
  | .ok text =>
      pure (Settings.ofText host.wording.settings host.environment path text)
  | .error fault =>
      if fault.isAbsence then
        pure (if path?.isSome then .error (.notFound path) else .ok {})
      else pure (.error (.unreadable path fault))

end Host

/-- Files, and the keys that wait at the terminal if there is one.  Questions
also need a screen to be shown on.  What is said besides the output is not
kept. -/
structure Session where
  files : Files
  keys : Option (List Key)
  screen : Bool

namespace Session

def read (path : String) : StateM Session (Except FileFault ByteArray) := do
  let session ← get
  pure (session.files.read path)

/-- A write that fails leaves the files as they are. -/
def write (path : String) (content : ByteArray) :
    StateM Session (Except FileFault Unit) := do
  let session ← get
  match session.files.write path content with
  | .ok files =>
      set { session with files }
      pure (.ok ())
  | .error fault => pure (.error fault)

/-- Ask for a variable.  The keys that answer the question are used up. -/
def ask (v : Variable) : StateM Session (Except Unanswered Json) := do
  let session ← get
  match session.keys, session.screen with
  | some keys, true =>
      match v.question.ask keys with
      | .ok (value, rest) =>
          set { session with keys := some rest }
          pure (.ok value)
      | .error cause => pure (.error cause)
  | _, _ => pure (.error .notATerminal)

def host (environment : Environment) (wording : Wording) (now : DateTime) :
    Host (StateM Session) where
  environment
  wording
  now := pure now
  read
  write
  isInteractive := do pure (← get).keys.isSome
  ask
  complain := fun _ => pure ()

end Session

end Stencil

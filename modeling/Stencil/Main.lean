/-
The program: the command line is answered with the files, the terminal, the
clock and the environment of the machine.
-/
import Std.Time.Format
import Stencil.Command.Run

namespace Stencil

/-- The lines of a file of the system, of which there are none if it cannot be
read. -/
def systemLines (path : String) : IO (List String) := do
  try
    let text ← IO.FS.readFile path
    pure (Text.splitString '\n' text)
  catch _ => pure []

/-- The home directory on record for the user who runs this process. -/
def recordedHome : IO (Option String) := do
  let status ← systemLines "/proc/self/status"
  let users := status.filterMap fun line =>
    match Text.splitString '\t' line with
    | "Uid:" :: user :: _ => some user
    | _ => none
  let accounts ← systemLines "/etc/passwd"
  pure (accounts.findSome? fun line =>
    match Text.splitString ':' line with
    | [_, _, user, _, _, home, _] => if user ∈ users then some home else none
    | _ => none)

/-- The variables of the environment of this process, and the home of its
user. -/
def currentEnvironment : IO Environment := do
  let bytes ← IO.FS.readBinFile "/proc/self/environ"
  let texts := Text.splitString '\x00' ((String.fromUTF8? bytes).getD "")
  pure ⟨Entries.ofPairs (texts.filterMap Gathered.assignment?), ← recordedHome⟩

/-- The wall clock of the machine. -/
def currentTime : IO DateTime := do
  let now ← Std.Time.PlainDateTime.now
  pure ⟨⟨now.date.year.toInt, now.date.month.val.toNat, now.date.day.val.toNat⟩,
    ⟨now.time.hour.val.toNat, now.time.minute.val.toNat,
      now.time.second.val.toNat, now.time.nanosecond.val.toNat⟩⟩

/-- The fault behind an error of the system, which counts errors upwards or
downwards from zero. -/
def faultOfError (error : IO.Error) : FileFault :=
  let code? :=
    match error with
    | .noFileOrDirectory _ code _ => some code
    | .inappropriateType _ code _ => some code
    | .invalidArgument _ code _ => some code
    | .otherError code _ => some code
    | _ => none
  match code?.map fun code => min code (0 - code) with
  | some 2 => .missing
  | some 20 => .notADirectory
  | some 21 => .isADirectory
  | some 36 => .nameTooLong
  | _ => .other (toString error)

def guarded {α : Type} (action : IO α) : IO (Except FileFault α) := do
  try
    let value ← action
    pure (.ok value)
  catch error => pure (.error (faultOfError error))

/-- Read keys until the question is answered. -/
partial def answerFrom (input : IO.FS.Stream) (start : KeyStart)
    (question : Question) :
    IO (Except Unanswered Json) := do
  match (← input.read 1).toList with
  | [] => pure (.error .endOfInput)
  | byte :: _ =>
      match start.feed byte with
      | (start, none) => answerFrom input start question
      | (_, some .interrupt) => pure (.error .interrupted)
      | (start, some key) =>
          match question.press key with
          | .answer value => pure (.ok value)
          | .open question => answerFrom input start question

def askUser (v : Variable) : IO (Except Unanswered Json) := do
  let screen ← IO.getStderr
  if ← screen.isTty then
    screen.putStr (outputLines v.announcement)
    screen.flush
    answerFrom (← IO.getStdin) .nothing v.question
  else pure (.error .notATerminal)

/-- The readers of this program say no more about a text than that they refuse
it. -/
def plainWording : Wording where
  settings := fun _ => "the text is malformed"
  inputs := fun _ => "the text is no object"
  template := fun _ => "the text is malformed"

def machineHost : IO (Host IO) := do
  pure {
    environment := ← currentEnvironment
    wording := plainWording
    now := currentTime
    read := fun path => guarded (IO.FS.readBinFile path)
    write := fun path content => guarded (IO.FS.writeBinFile path content)
    isInteractive := do (← IO.getStdin).isTty
    ask := askUser
    complain := fun line => IO.eprintln line }

/-- Answer a command line; the result is the exit code. -/
def serve (arguments : List String) : IO UInt32 := do
  match ← (← machineHost).respond arguments with
  | .finished code output =>
      IO.print output
      pure code.toUInt32
  | .interrupted => pure 130

end Stencil

def main (arguments : List String) : IO UInt32 :=
  Stencil.serve arguments

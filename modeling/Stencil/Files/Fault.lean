/-
Why a file could not be read or written.
-/

namespace Stencil

inductive FileFault where
  | missing
  | notADirectory
  | isADirectory
  | nameTooLong
  | invalidName
  | notText
  | other (description : String)
deriving DecidableEq, Repr

/-- The wording, with the number by which the system knows the fault. -/
def FileFault.message : FileFault → String
  | missing => "No such file or directory (os error 2)"
  | notADirectory => "Not a directory (os error 20)"
  | isADirectory => "Is a directory (os error 21)"
  | nameTooLong => "File name too long (os error 36)"
  | invalidName => "file name contained an unexpected NUL byte"
  | notText => "stream did not contain valid UTF-8"
  | other description => description

end Stencil

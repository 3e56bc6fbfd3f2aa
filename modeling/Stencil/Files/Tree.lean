/-
A file system as a tree of directories, and the way a path leads through it.
A path is walked word by word: every word but the last must name a directory,
also where the path goes back up again.
-/
import Stencil.Entries
import Stencil.Files.Fault
import Stencil.Text.Split

namespace Stencil

inductive FileNode where
  | file (content : ByteArray)
  | directory (entries : List (String × FileNode))

/-- Where a file stands: the names from the root to it. -/
abbrev Location := List String

namespace FileNode

def empty : FileNode := directory []

/-- What stands at a location. -/
def get? : Location → FileNode → Option FileNode
  | [], node => some node
  | name :: rest, directory entries =>
      match Entries.get? name entries with
      | some node => get? rest node
      | none => none
  | _ :: _, file _ => none

/-- Store a node at a location.  Directories on the way are made as needed. -/
def put : FileNode → Location → FileNode → FileNode
  | _, [], new => new
  | node, name :: rest, new =>
      let entries :=
        match node with
        | directory entries => entries
        | file _ => []
      directory
        (Entries.insert name
          (put ((Entries.get? name entries).getD empty) rest new) entries)

theorem get?_put_self (node : FileNode) (location : Location) (new : FileNode) :
    get? location (node.put location new) = some new := by
  induction location generalizing node with
  | nil => rfl
  | cons name rest ih => simp [put, get?, Entries.get?_insert, ih]

end FileNode

/-- A file system and the directory where relative paths begin. -/
structure Files where
  root : FileNode
  workplace : Location

namespace Files

/-- The words of a path. -/
def words (path : String) : List String :=
  Text.splitString '/' path

/-- Where a path begins. -/
def start (files : Files) (path : String) : Location :=
  if path.startsWith "/" then [] else files.workplace

/-- Whether a path can be passed to the system at all. -/
def checkPath (path : String) : Except FileFault Unit :=
  if path = "" then .error .missing
  else if path.contains '\x00' then .error .invalidName
  else if 4095 < path.utf8ByteSize then .error .nameTooLong
  else .ok ()

def checkName (name : String) : Except FileFault Unit :=
  if 255 < name.utf8ByteSize then .error .nameTooLong else .ok ()

/-- Follow one word from a location, which must be a directory. -/
def step (files : Files) (location : Location) (word : String) :
    Except FileFault Location :=
  match files.root.get? location with
  | none => .error .missing
  | some (.file _) => .error .notADirectory
  | some (.directory entries) =>
      if word = "" ∨ word = "." then .ok location
      else if word = ".." then .ok location.dropLast
      else do
        checkName word
        if Entries.contains word entries then .ok (location ++ [word])
          else .error .missing

/-- The location to which a path leads. -/
def locate (files : Files) (path : String) : Except FileFault Location := do
  checkPath path
  (words path).foldlM files.step (files.start path)

/-- The content of a file. -/
def read (files : Files) (path : String) : Except FileFault ByteArray := do
  let location ← files.locate path
  match files.root.get? location with
  | some (.file content) => .ok content
  | some (.directory _) => .error .isADirectory
  | none => .error .missing

/-- The location of a file that may not exist yet, in a directory that must. -/
def locateNew (files : Files) (path : String) : Except FileFault Location := do
  checkPath path
  let words := words path
  let named := (words.reverse.dropWhile (· = "")).reverse
  match named.getLast? with
  | none => .error .isADirectory
  | some name =>
      let parent ← named.dropLast.foldlM files.step (files.start path)
      let _ ← files.step parent ""
      if name = "." ∨ name = ".." ∨ named.length < words.length then
        .error .isADirectory
      else do
        checkName name
        match files.root.get? (parent ++ [name]) with
        | some (.directory _) => .error .isADirectory
        | _ => .ok (parent ++ [name])

/-- Create a file, or replace its content. -/
def write (files : Files) (path : String) (content : ByteArray) :
    Except FileFault Files := do
  let location ← files.locateNew path
  .ok { files with root := files.root.put location (.file content) }

end Files

end Stencil

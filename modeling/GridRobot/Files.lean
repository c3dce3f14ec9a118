import GridRobot.Text.Bytes
import GridRobot.Text.Quoted

/-!
Files as a program sees them: what stands at each path, and the reading of text files. A path is walked from its start,
and the first part that leads nowhere is the fault. The system refuses a file for no other reason than those of
`FileFault`; what it does with a file that is to be written is not said.
-/
namespace GridRobot

inductive Stored
  | file (bytes : List UInt8)
  | directory
  /-- A file that may not be read. -/
  | lockedFile
  /-- A directory that may be neither read nor entered. -/
  | lockedDirectory

/-- What stands at each path; nothing where the path does not exist. -/
abbrev Files := String → Option Stored

inductive FileFault
  | missing (path : String)
  | directory (path : String)
  | denied (path : String)
  | notDirectory (path : String)
  | nameTooLong (path : String)
  | nullCharacter
  | decoding (fault : Text.DecodingFault)
deriving DecidableEq

namespace FileFault

def message : FileFault → String
  | .missing path => "[Errno 2] No such file or directory: " ++ Text.quoted path
  | .directory path => "[Errno 21] Is a directory: " ++ Text.quoted path
  | .denied path => "[Errno 13] Permission denied: " ++ Text.quoted path
  | .notDirectory path => "[Errno 20] Not a directory: " ++ Text.quoted path
  | .nameTooLong path => "[Errno 36] File name too long: " ++ Text.quoted path
  | .nullCharacter => "embedded null byte"
  | .decoding fault => fault.message

end FileFault

namespace Files

def nameLimit : Nat := 255

def pathLimit : Nat := 4095

/-- The name at the end of a path, and the path up to each slash in it, shortest first. `before` and
`name` are what has been read, latest first. -/
def split (before name : List Char) : List Char → List String × String
  | [] => ([], String.ofList name.reverse)
  | '/' :: rest =>
    let (outer, last) := split ('/' :: before) [] rest
    (if before.isEmpty then outer else String.ofList before.reverse :: outer, last)
  | c :: rest => split (c :: before) (c :: name) rest

def outer (path : String) : List String := (split [] [] path.toList).1

def name (path : String) : String := (split [] [] path.toList).2

def entry (files : Files) (whole path : String) : Except FileFault Stored :=
  if nameLimit < (name path).utf8ByteSize then .error (.nameTooLong whole)
  else match files path with
  | none => .error (.missing whole)
  | some stored => .ok stored

def walk (files : Files) (whole : String) : List String → Except FileFault Stored
  | [] => .error (.missing whole)
  | [path] => files.entry whole path
  | path :: rest => do
    match ← files.entry whole path with
    | .file _ | .lockedFile => .error (.notDirectory whole)
    | .lockedDirectory => .error (.denied whole)
    | .directory => files.walk whole rest

def find (files : Files) (path : String) : Except FileFault Stored :=
  if path.toList.contains (Char.ofNat 0) then .error .nullCharacter
  else if pathLimit < path.utf8ByteSize then .error (.nameTooLong path)
  else files.walk path (outer path ++ [path])

def readText (files : Files) (path : String) : Except FileFault (List Char) := do
  match ← files.find path with
  | .directory => .error (.directory path)
  | .lockedFile | .lockedDirectory => .error (.denied path)
  | .file bytes => (Text.decodeFile bytes).mapError .decoding

end Files

end GridRobot

/-! Paths in a file system. A path is looked up part by part; every part but the first needs a directory
before it, and so does a slash at the end. Names and paths have a greatest length in bytes. -/

namespace BookExport

inductive FileEntry where
  | file
  | directory (children : List (String × FileEntry))
  deriving Repr, Inhabited

/-- A tree of files, and the names that lead from its root to where relative paths start. -/
structure Files where
  root : FileEntry
  current : List String := []

namespace Files

inductive Lookup where
  | found (entry : FileEntry)
  | missing
  | notDirectory
  | tooLong
  deriving Repr

def maxNameLength : Nat := 255

def maxPathLength : Nat := 4095

/-- Follows the parts of a path from `entry`, with the directories above it innermost first. -/
def follow (entry : FileEntry) (above : List FileEntry) : List String → Lookup
  | [] => .found entry
  | part :: rest =>
    match entry with
    | .file => .notDirectory
    | .directory children =>
      if part = "" ∨ part = "." then follow entry above rest
      else if part = ".." then
        match above with
        | [] => follow entry [] rest
        | parent :: above => follow parent above rest
      else if maxNameLength < part.utf8ByteSize then .tooLong
      else match children.lookup part with
        | some child => follow child (entry :: above) rest
        | none => .missing

def lookup (files : Files) (path : String) : Lookup :=
  let cs := path.toList
  if cs.isEmpty ∨ '\x00' ∈ cs then .missing
  else if maxPathLength < path.utf8ByteSize then .tooLong
  else
    let parts := (cs.splitOn '/').map String.ofList
    if cs.head? = some '/' then follow files.root [] parts else follow files.root [] (files.current ++ parts)

/-- Whether something other than a directory stands at the path. -/
def isBlocked (files : Files) (path : String) : Bool :=
  match files.lookup path with
  | .found .file => true
  | _ => false

/-- What is found at the path of a program. A name without a slash is sought among the installed programs, of
which there are none; the two names that stand for directories are found there. -/
def lookupProgram (files : Files) (program : String) : Lookup :=
  if '/' ∈ program.toList then files.lookup program
  else if program = "." ∨ program = ".." then .found (.directory [])
  else if maxNameLength < program.utf8ByteSize then .tooLong
  else .missing

/-- Why a program cannot be started. -/
def startFault (files : Files) (program : String) : String :=
  if '\x00' ∈ program.toList then "nul byte found in provided data"
  else match files.lookupProgram program with
    | .found _ => "Permission denied (os error 13)"
    | .missing => "No such file or directory (os error 2)"
    | .notDirectory => "Not a directory (os error 20)"
    | .tooLong => "File name too long (os error 36)"

end Files
end BookExport

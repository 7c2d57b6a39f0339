import Trialbook.Text.FilePath

/-!
# Files

The files that a run can reach, each under the names that lead to it from the root.
A path with a slash in front starts there, any other in the directory that the run
starts in, and from either it may go up as well as down. A directory exists when it
is given or when a file stands below it.

A place may be closed to reading or to writing, whatever the reason is.
-/

namespace Trialbook.Command

/-- Files by the names that lead to them. -/
structure FileTree where
  files : List (List String × ByteArray) := []
  directories : List (List String) := []
  /-- The directory that a run starts in. -/
  start : List String := []
  /-- The files that cannot be read and the directories that cannot be entered. -/
  unreadable : List (List String) := []
  /-- The places where no file can be written. -/
  unwritable : List (List String) := []

/-- Why there is nothing to read at a path. -/
inductive ReadFailure where
  | missing
  | denied
  | notDirectory
  | isDirectory
  | nameTooLong
  deriving DecidableEq, Repr

/-- The wording of a failure to read. -/
def ReadFailure.message : ReadFailure → String
  | missing => "No such file or directory (os error 2)"
  | denied => "Permission denied (os error 13)"
  | notDirectory => "Not a directory (os error 20)"
  | isDirectory => "Is a directory (os error 21)"
  | nameTooLong => "File name too long (os error 36)"

/-- What a path leads to. -/
inductive Location where
  | directory (names : List String)
  | file (names : List String) (content : ByteArray)

namespace FileTree

/-- The names between the slashes of a path. -/
def names (path : String) : List String :=
  ((Path.splitAt '/' path.toList).map String.ofList).filter fun s => !s.isEmpty

/-- The tree of the given texts below the root, of which none is given twice. -/
def ofList (files : List (String × String)) : FileTree where
  files := files.map fun (path, text) => (names path, text.toUTF8)

/-- The most bytes that a name may have. -/
def maxNameLength : Nat := 255

/-- The most bytes that a path may have. -/
def maxPathLength : Nat := 4095

/-- The content of a file. -/
def get? (t : FileTree) (here : List String) : Option ByteArray := t.files.lookup here

/-- Whether names lead to a directory: one that is given, or one above that or above
a file. -/
def isDirectory (t : FileTree) (here : List String) : Bool :=
  (t.start :: t.directories).any here.isPrefixOf ||
    t.files.any fun (file, _) => here.isPrefixOf file && file != here

/-- What a name leads to from a location. -/
def enter (t : FileTree) (l : Location) (name : String) : Except ReadFailure Location :=
  match l with
  | .file .. => .error .notDirectory
  | .directory above =>
    if t.unreadable.contains above then .error .denied
    else if name == "." then .ok l
    else if name == ".." then .ok (.directory above.dropLast)
    else if name.utf8ByteSize > maxNameLength then .error .nameTooLong
    else
      let here := above ++ [name]
      match t.get? here with
      | some content => .ok (.file here content)
      | none => if t.isDirectory here then .ok (.directory here) else .error .missing

/-- Where names lead to from a location, one after the other. -/
def follow (t : FileTree) (l : Location) (names : List String) : Except ReadFailure Location :=
  names.foldlM t.enter l

/-- Where a path starts. -/
def origin (t : FileTree) (path : String) : Location :=
  .directory (if path.toList.head? == some '/' then [] else t.start)

/-- The names that a path goes through. A slash at its end asks for a directory. -/
def steps (path : String) : List String :=
  if path.toList.getLast? == some '/' then names path ++ ["."] else names path

/-- The content of the file at a path. -/
def read (t : FileTree) (path : String) : Except ReadFailure ByteArray :=
  if path.isEmpty then .error .missing
  else if path.utf8ByteSize > maxPathLength then .error .nameTooLong
  else
    match t.follow (t.origin path) (steps path) with
    | .ok (.file here content) =>
      if t.unreadable.contains here then .error .denied else .ok content
    | .ok (.directory _) => .error .isDirectory
    | .error e => .error e

/-- Files with a content under names, in the place of the present one. -/
def put (here : List String) (content : ByteArray) :
    List (List String × ByteArray) → List (List String × ByteArray)
  | [] => [(here, content)]
  | (file, old) :: rest =>
    if file = here then (here, content) :: rest else (file, old) :: put here content rest

/-- Whether a file of the given name can be written in a directory. -/
def canHold (t : FileTree) (above : List String) (name : String) : Bool :=
  !(name == "." || name == ".." || name.utf8ByteSize > maxNameLength ||
    t.unreadable.contains above || t.isDirectory (above ++ [name]) ||
    t.unwritable.contains (above ++ [name]))

/-- The tree with a content at a path, if there can be a file. -/
def write? (t : FileTree) (path : String) (content : ByteArray) : Option FileTree :=
  match (steps path).getLast?, t.follow (t.origin path) (steps path).dropLast with
  | some name, .ok (.directory above) =>
    if path.utf8ByteSize ≤ maxPathLength && t.canHold above name then
      some { t with files := put (above ++ [name]) content t.files }
    else none
  | _, _ => none

/-- The texts of the files that are new or have another content than before. -/
def changesFrom (after before : FileTree) : List (String × String) :=
  (after.files.filter fun (file, content) => before.get? file != some content).map
    fun (file, content) => ("/".intercalate file, (String.fromUTF8? content).getD "")

end FileTree

end Trialbook.Command

import Trialbook.Document.Path

/-!
# Names of files

A file path is read as a sequence of components between slashes. Empty
components and single dots do not count, except a dot at the very start.
-/

namespace Trialbook.Text

/-- A component of a file path. -/
inductive PathComponent where
  | root
  | here
  | parent
  | name (value : String)
  deriving DecidableEq, Repr

/-- The components of a path. -/
def pathComponents (path : String) : List PathComponent :=
  let pieces := (Path.splitAt '/' path.toList).map String.ofList
  let absolute := path.toList.head? == some '/'
  let component (first : Bool) (piece : String) : Option PathComponent :=
    if piece.isEmpty then none
    else if piece == "." then if first then some .here else none
    else if piece == ".." then some .parent
    else some (.name piece)
  match pieces with
  | [] => []
  | head :: rest =>
    (if absolute then [PathComponent.root] else []) ++ (component true head).toList
      ++ rest.filterMap (component false)

/-- The name of the file a path leads to, if its last component is a name. -/
def fileName? (path : String) : Option String :=
  match (pathComponents path).getLast? with
  | some (.name value) => some value
  | _ => none

/-- A file name cut at its last dot. A name whose only dot comes first is not
cut, and neither is one without a dot. -/
def splitExtension (name : String) : String × Option String :=
  let (after, before) := (name.toList.reverse.takeWhile (· != '.'),
    name.toList.reverse.dropWhile (· != '.'))
  match before with
  | [] => (name, none)
  | _ :: stem =>
    if stem.isEmpty then (name, none)
    else (String.ofList stem.reverse, some (String.ofList after.reverse))

/-- The extension of the file a path leads to. -/
def extension? (path : String) : Option String :=
  (fileName? path).bind fun name => (splitExtension name).2

/-- The name without its extension. -/
def fileStem? (path : String) : Option String :=
  (fileName? path).map fun name => (splitExtension name).1

/-- A path, last character first, without the slashes and single dots at its end. -/
def trimPathEnd : List Char → List Char
  | ['/'] => ['/']
  | '/' :: rest => trimPathEnd rest
  | '.' :: '/' :: rest => trimPathEnd ('/' :: rest)
  | cs => cs

/-- The path of the directory that a path's last name stands in. It is empty for
a name alone. -/
def parentPath (path : String) : String :=
  let above := (trimPathEnd path.toList.reverse).dropWhile (· != '/')
  String.ofList (trimPathEnd above).reverse

/-- The path of a name in a directory. -/
def joinPath (directory name : String) : String :=
  if directory.isEmpty || directory.toList.getLast? == some '/' then directory ++ name
  else directory ++ "/" ++ name

end Trialbook.Text

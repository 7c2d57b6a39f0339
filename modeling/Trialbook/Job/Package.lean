import Trialbook.Node.OneOrMany

/-!
# Packages

Packages come from one of two managers. A package is loaded by a command, and
one of the managers also installs it first.
-/

namespace Trialbook

/-- A package manager. -/
inductive Manager where
  | spack
  | module
  deriving DecidableEq, Repr

namespace Manager

/-- The managers in the order in which their packages are listed. -/
def all : List Manager := [spack, module]

/-- The key under which a document lists a manager's packages. -/
def key : Manager → String
  | spack => "spack"
  | module => "module"

/-- The manager with a key. -/
def ofKey? (key : String) : Option Manager := all.find? fun m => m.key == key

end Manager

/-- A package to be made available. -/
structure Directive where
  manager : Manager
  spec : String
  deriving DecidableEq, Repr

namespace Directive

/-- The command that installs the package, if its manager installs. -/
def installCommand? (d : Directive) : Option String :=
  match d.manager with
  | .spack => some ("spack install " ++ d.spec)
  | .module => none

/-- The command that loads the package. -/
def loadCommand (d : Directive) : String := d.manager.key ++ " load " ++ d.spec

/-- The commands that are asked for, one a line. -/
def emit (d : Directive) (load install : Bool) : String :=
  "\n".intercalate <|
    (if install then d.installCommand?.toList else []) ++ (if load then [d.loadCommand] else [])

/-- The packages of a manager, from the node that lists their specs. -/
def ofSpecs (manager : Manager) (specs : Node) : Except Mismatch (List Directive) :=
  (specs.oneOrMany manager.key).map fun texts => texts.map fun spec => ⟨manager, spec⟩

/-- The packages of the given managers among some entries. -/
def ofEntries (entries : Entries) : List Manager → Except Mismatch (List Directive)
  | [] => .ok []
  | manager :: rest =>
    match Entries.get? manager.key entries with
    | none => ofEntries entries rest
    | some specs => do
      let first ← ofSpecs manager specs
      let others ← ofEntries entries rest
      return first ++ others

/-- The packages of a node with specs under the managers' keys: all of the
first manager, then all of the second. Other keys do not count. -/
def identify : Node → Except Mismatch (List Directive)
  | .mapping entries => ofEntries entries Manager.all
  | node => .error (.ofNode "package_manager" "mapping" node)

end Directive

end Trialbook

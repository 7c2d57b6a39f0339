import Trialbook.Job.Package
import Trialbook.Settings

/-!
# Dependencies of a test entry

An entry depends on other entries and on packages. Entries of the same suite are
named without their suite, and get it here.
-/

namespace Trialbook

/-- Something a test entry depends on. -/
inductive Dependency where
  /-- Another entry, by its qualified name. -/
  | test (id : String)
  | package (directive : Directive)
  deriving DecidableEq, Repr

namespace Dependency

/-- The qualified name of the entry it is, if it is one. -/
def testId? : Dependency → Option String
  | test id => some id
  | package _ => none

/-- The package it is, if it is one. -/
def directive? : Dependency → Option Directive
  | test _ => none
  | package d => some d

/-- A name under the name of its suite. A name with a slash is qualified already. -/
def qualify (suite name : String) : String :=
  if name.toList.contains '/' then name else suite ++ "/" ++ name

/-- The key under which entries are listed. -/
def testKey : String := "test"

/-- The dependencies that one entry of the mapping lists. -/
def ofEntry (suite : String) (policy : LookupPolicy) (key value : Node) :
    Except Fault (List Dependency) :=
  let kind := key.scalarText?.getD ""
  if kind = testKey then
    match value.oneOrMany "depends_on.test" with
    | .ok names => .ok (names.map fun name => test (qualify suite name))
    | .error m => .error (.mismatch m)
  else
    match Manager.ofKey? kind, policy with
    | some manager, _ =>
      match Directive.ofSpecs manager value with
      | .ok directives => .ok (directives.map package)
      | .error m => .error (.mismatch m)
    | none, .ignore => .ok []
    | none, .error => .error (.unknownDependencyKind kind)

/-- The dependencies that the entries of the mapping list, in order. -/
def ofEntries (suite : String) (policy : LookupPolicy) :
    Entries → Except Fault (List Dependency)
  | [] => .ok []
  | (key, value) :: rest => do
    let first ← ofEntry suite policy key value
    let others ← ofEntries suite policy rest
    return first ++ others

/-- The dependencies of a node. -/
def resolve (suite : String) (node : Node) (policy : LookupPolicy) :
    Except Fault (List Dependency) :=
  match node with
  | .null => .ok []
  | .mapping entries => ofEntries suite policy entries
  | node => .error (.mismatch (.ofNode "depends_on" "mapping" node))

end Dependency

end Trialbook

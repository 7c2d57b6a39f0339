import Trialbook.Record.Decode

/-!
# Test entries

A test entry of a suite: what it builds, what it needs and how it runs. A run is
repeated for every combination of the values of its axes.
-/

namespace Trialbook

/-- An axis of a run: its name and its values, in order. -/
structure Axis where
  name : String
  values : List String
  deriving DecidableEq, Repr, Inhabited

/-- How an entry runs. -/
structure RunSpec where
  program : Option String := none
  args : Option String := none
  axes : List Axis := []
  deriving DecidableEq, Repr, Inhabited

/-- A test entry. -/
structure TestEntry where
  files : List String := []
  variants : List String := []
  cflags : Option String := none
  ldflags : Option String := none
  /-- The name of what is built, if it is not the entry's own. -/
  binary : Option String := none
  packages : Option Node := none
  dependencies : Option Node := none
  run : Option RunSpec := none
  deriving Repr, Inhabited

namespace Axis

/-- The axis of an entry of the mapping. The values stand there directly, or
under a key of their own. -/
def ofEntry (key value : Node) : Except RecordFault Axis := do
  match key.text? with
  | none => throw .axisNameNotString
  | some name => return ⟨name, ← Record.list name ((value.child? "values").getD value)⟩

/-- The axes of the entries of the mapping, in order. -/
def ofEntries : Entries → Except RecordFault (List Axis)
  | [] => .ok []
  | (key, value) :: rest => do
    let axis ← ofEntry key value
    let others ← ofEntries rest
    return axis :: others

/-- The axes of a node. -/
def ofNode : Node → Except RecordFault (List Axis)
  | .null => .ok []
  | .mapping entries => ofEntries entries
  | _ => .error .axesNotMapping

end Axis

/-- A run from a node. -/
def RunSpec.ofNode : Node → Except RecordFault RunSpec :=
  Record.fields "struct RunSpec" ["program", "args", "iterate"]
    (fun name value run => do
      match name with
      | "program" => return { run with program := ← Record.optional Record.text value }
      | "args" => return { run with args := ← Record.optional Record.text value }
      | _ => return { run with axes := ← Axis.ofNode value })
    {}

namespace TestEntry

/-- The keys of an entry. -/
def knownKeys : List String :=
  ["files", "variants", "cflags", "ldflags", "binary", "package_manager", "depends_on", "run"]

/-- One field of an entry. -/
def readField (name : String) (value : Node) (entry : TestEntry) :
    Except RecordFault TestEntry := do
  match name with
  | "files" => return { entry with files := ← Record.list "list" value }
  | "variants" => return { entry with variants := ← Record.list "list" value }
  | "cflags" => return { entry with cflags := ← Record.optional Record.text value }
  | "ldflags" => return { entry with ldflags := ← Record.optional Record.text value }
  | "binary" => return { entry with binary := ← Record.optional Record.text value }
  | "package_manager" => return { entry with packages := ← Record.optional .ok value }
  | "depends_on" => return { entry with dependencies := ← Record.optional .ok value }
  | _ => return { entry with run := ← Record.optional RunSpec.ofNode value }

/-- An entry from a node. -/
def ofRecord : Node → Except RecordFault TestEntry :=
  Record.fields "struct TestEntry" knownKeys readField {}

/-- The entry of the given name. -/
def ofNode (name : String) (node : Node) : Except Fault TestEntry :=
  if node.isMapping then (ofRecord node).mapError (.entry name)
  else .error (.mismatch (.ofNode name "mapping" node))

end TestEntry

end Trialbook

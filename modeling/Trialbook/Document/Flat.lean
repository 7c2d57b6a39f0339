import Trialbook.Document.Path
import Trialbook.Text.White
import Trialbook.Yaml.Printer

/-!
# The flat view of a document

A document seen as a list of leaves, each under the dotted path that leads to
it, in document order. Scalars, sequences, tagged nodes and empty mappings are
leaves.
-/

namespace Trialbook

/-- A leaf and its path. -/
structure Leaf where
  path : String
  value : Node
  deriving Repr, Inhabited

/-- Leaves in document order. -/
abbrev FlatView := List Leaf

namespace Node

/-- The text by which a key takes part in a path: its own text for a scalar,
otherwise its written form on however many lines that takes. -/
def keyText (key : Node) : String :=
  match key.scalarText? with
  | some s => s
  | none => Text.trimEnd ((Yaml.print? key).getD "")

mutual

/-- The leaves of a node that stands at `path`. An empty mapping is a leaf
unless the path is empty, where nothing could name it. -/
def flattenAt (path : String) : Node → FlatView
  | mapping es =>
    if es.isEmpty && !path.isEmpty then [⟨path, mapping es⟩] else flattenEntries path es
  | null => [⟨path, null⟩]
  | bool b => [⟨path, bool b⟩]
  | number n => [⟨path, number n⟩]
  | text s => [⟨path, text s⟩]
  | sequence xs => [⟨path, sequence xs⟩]
  | tagged t n => [⟨path, tagged t n⟩]

/-- The leaves of the entries of a mapping that stands at `path`. -/
def flattenEntries (path : String) : List (Node × Node) → FlatView
  | [] => []
  | (k, v) :: es => flattenAt (Path.child path k.keyText) v ++ flattenEntries path es

end

end Node

end Trialbook

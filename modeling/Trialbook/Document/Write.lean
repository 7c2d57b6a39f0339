import Trialbook.Document.Path
import Trialbook.Node.Basic

/-!
# Writing one value into a document

A write assigns a value at a dotted path and makes the mappings on the way. It
goes through whatever stands in its way and says what it displaced: a leaf that
became a mapping, a subtree that became a leaf, or a leaf that became another.

The walk looks through tags to find mappings, with two exceptions that follow
from what a tag is attached to. A tagged null cannot grow a mapping, so a walk
that has to go through one has no outcome at all. And a tagged mapping met as
the last parent is left as it is.
-/

namespace Trialbook

/-- The ways a write can displace what it finds. -/
inductive CollisionKind where
  /-- A leaf was replaced by another value. -/
  | overwritten
  /-- A leaf was replaced by a mapping on the way. -/
  | leafReplaced
  /-- A mapping was replaced by a leaf. -/
  | subtreeReplaced
  deriving DecidableEq, Repr

/-- What happened, in a message. -/
def CollisionKind.text : CollisionKind → String
  | overwritten => "value overwritten"
  | leafReplaced => "leaf replaced by a mapping"
  | subtreeReplaced => "mapping replaced by a leaf"

/-- A displacement and where it happened. -/
structure Collision where
  path : String
  kind : CollisionKind
  deriving DecidableEq, Repr

/-- The message of a collision. -/
def Collision.text (c : Collision) : String := c.path ++ ": " ++ c.kind.text

/-- One assignment of a value to a path. With `append`, the value joins a
sequence instead. -/
structure Write where
  path : String
  value : Node
  append : Bool
  deriving Repr, Inhabited

namespace Node

/-- What a node contributes as the start of a sequence: its items, nothing for
null, otherwise itself. -/
def asItems : Node → List Node
  | sequence xs => xs
  | null => []
  | node => [node]

/-- What a node adds to a sequence: its items, otherwise itself. -/
def splice : Node → List Node
  | sequence xs => xs
  | node => [node]

/-- The sequence of a node's items followed by those of another. -/
def appended (current value : Node) : Node :=
  sequence (current.asItems ++ value.splice)

/-- The value as it is first placed. -/
def fresh (value : Node) (append : Bool) : Node :=
  if append then (sequence []).appended value else value

end Node

/-- A displacement inside a node, by the segments that lead to it. -/
structure Clash where
  segments : List String
  kind : CollisionKind
  deriving DecidableEq, Repr

namespace Clash

/-- The displacement seen from one mapping further out. -/
def under (segment : String) (c : Clash) : Clash := { c with segments := segment :: c.segments }

end Clash

/-- A node after a write, with what the write displaced in it. -/
structure Written where
  node : Node
  clash : Option Clash
  deriving Repr

namespace Entries

/-- A value placed under the last segment of a path. -/
def place (key : String) (value : Node) (append : Bool) (entries : Entries) :
    Entries × Option Clash :=
  match get? key entries with
  | none => (set key (value.fresh append) entries, none)
  | some present =>
    if append && !present.isMapping then (set key (present.appended value) entries, none)
    else
      let kind := if present.isMapping then .subtreeReplaced else .overwritten
      (set key (value.fresh append) entries, some ⟨[key], kind⟩)

end Entries

namespace Node

/-- A write whose last parent is this node. -/
def writeLast (node : Node) (key : String) (value : Node) (append : Bool) : Written :=
  match node with
  | mapping entries =>
    let (entries, clash) := Entries.place key value append entries
    ⟨mapping entries, clash⟩
  | node =>
    if node.isMapping then ⟨node, none⟩
    else
      let (entries, _) := Entries.place key value append []
      ⟨mapping entries, if node.isNull then none else some ⟨[], .leafReplaced⟩⟩

/-- A write at the given segments below this node, or nothing when the walk
comes to a tagged null that it has to go through. -/
def writeAt (value : Node) (append : Bool) : List String → Node → Option Written
  | [], node => some ⟨node, none⟩
  | [key], node => some (node.writeLast key value append)
  | segment :: rest, node =>
    let through (entries : Entries) (shell : Node) (own : Option Clash) : Option Written := do
      let inner ← writeAt value append rest ((Entries.get? segment entries).getD null)
      let grown := mapping (Entries.set segment inner.node entries)
      pure ⟨shell.retag grown, own.or (inner.clash.map (Clash.under segment))⟩
    match node.untag with
    | mapping entries => through entries node none
    | null => if node.isTagged then none else through [] null none
    | _ => through [] null (some ⟨[], .leafReplaced⟩)

/-- A write into a document, or nothing when its path goes through a tagged
null. -/
def write (root : Node) (w : Write) : Option (Node × Option Collision) :=
  (writeAt w.value w.append (Path.segments w.path) root).map fun written =>
    (written.node, written.clash.map fun c => ⟨Path.ofSegments c.segments, c.kind⟩)

end Node

end Trialbook

import Trialbook.Document.Flat
import Trialbook.Document.Write

/-!
# Rebuilding a document from writes

Writes are applied in order to an empty mapping. What they displace is recorded,
or ends the rebuild, as the collision policy says.
-/

namespace Trialbook

/-- What to do when two writes land on the same path. -/
inductive CollisionPolicy where
  /-- The last write wins, and the collision is recorded. -/
  | overwrite
  | error
  deriving DecidableEq, Repr, Inhabited

/-- Why a document could not be rebuilt. -/
inductive RebuildFailure where
  /-- A collision under the strict policy, at the given path. -/
  | collision (path : String)
  /-- A path goes through a tagged null. -/
  | taggedNull (path : String)
  deriving DecidableEq, Repr

namespace Node

/-- A document after writes, with the collisions in the order they happened. -/
def writeAll (policy : CollisionPolicy) :
    Node → List Write → Except RebuildFailure (Node × List Collision)
  | root, [] => .ok (root, [])
  | root, w :: rest =>
    match root.write w with
    | none => .error (.taggedNull w.path)
    | some (root, none) => writeAll policy root rest
    | some (root, some c) =>
      match policy with
      | .error => .error (.collision c.path)
      | .overwrite => do
        let (root, collisions) ← writeAll policy root rest
        pure (root, c :: collisions)

end Node

/-- The document that writes build from nothing, with their collisions. -/
def rebuild (policy : CollisionPolicy) (writes : List Write) :
    Except RebuildFailure (Node × List Collision) :=
  (Node.mapping []).writeAll policy writes

/-- The leaf as an assignment. -/
def Leaf.toWrite (leaf : Leaf) : Write := ⟨leaf.path, leaf.value, false⟩

/-- The document of a flat view. -/
def unflatten (flat : FlatView) : Except RebuildFailure (Node × List Collision) :=
  rebuild .overwrite (flat.map Leaf.toWrite)

end Trialbook

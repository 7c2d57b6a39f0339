import Trialbook.Fault

/-!
# One or many

Where a document may give one text or a list of them, null means none and any
untagged scalar is a text.
-/

namespace Trialbook.Node

/-- The texts of a list's items, which stand at `place` from `index` on. -/
def itemTexts (place : String) : Nat → List Node → Except Mismatch (List String)
  | _, [] => .ok []
  | index, item :: rest =>
    match item.scalarText? with
    | none => .error (.ofNode (place ++ "[" ++ toString index ++ "]") "scalar" item)
    | some s => (itemTexts place (index + 1) rest).map (s :: ·)

/-- The texts of a node that stands at `place`. -/
def oneOrMany (place : String) : Node → Except Mismatch (List String)
  | null => .ok []
  | sequence items => itemTexts place 0 items
  | node =>
    match node.scalarText? with
    | some s => .ok [s]
    | none => .error (.ofNode place "scalar or sequence" node)

end Trialbook.Node

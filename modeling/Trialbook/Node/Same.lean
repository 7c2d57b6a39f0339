import Trialbook.Node.Basic

/-!
# Nodes as keys

Two nodes are one key when they have the same shape and hold the same, with the
entries of a mapping in any order, the two zeros alike and the not-a-number equal
to itself.
-/

namespace Trialbook.Node

mutual

/-- Whether two nodes are the same key. -/
def same : Node → Node → Bool
  | null, null => true
  | bool a, bool b => a == b
  | number a, number b => a.same b
  | text a, text b => a == b
  | sequence xs, sequence ys => sameItems xs ys
  | mapping es, mapping fs => es.length == fs.length && sameEntries es fs
  | tagged s a, tagged t b => s == t && same a b
  | _, _ => false

/-- Whether two sequences hold the same items. -/
def sameItems : List Node → List Node → Bool
  | [], [] => true
  | x :: xs, y :: ys => same x y && sameItems xs ys
  | _, _ => false

/-- Whether each entry has an entry with the same key and value among others. -/
def sameEntries : List (Node × Node) → List (Node × Node) → Bool
  | [], _ => true
  | (k, v) :: es, fs => hasEntry k v fs && sameEntries es fs

/-- Whether an entry has one with the same key and value among others. -/
def hasEntry (key value : Node) : List (Node × Node) → Bool
  | [] => false
  | (k, v) :: fs => (same key k && same value v) || hasEntry key value fs

end

end Trialbook.Node

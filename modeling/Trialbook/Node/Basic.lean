import Trialbook.Decimal.Layout

/-!
# Document nodes

A document is a tree of nodes: scalars, sequences, mappings whose keys are
nodes themselves and whose order is part of the value, and nodes under a tag.

Two ways of looking at a tagged node run through the whole library and are kept
apart by name. `Node.untag` and what is built on it (`isMapping`, `isNull`,
`text?`, `child?`) look through tags; a match on the constructors does not.
-/

namespace Trialbook

open Decimal (Binary64 Layout)

/-- A number as documents hold it. The whole number `1` and the fraction `1.0`
are different nodes. -/
inductive Number where
  | int (value : Int)
  | float (value : Binary64)
  deriving DecidableEq, Repr, Inhabited

/-- Fractions are written positionally while the decimal point stands at most
four places before the first digit or sixteen behind it. -/
def Number.layout : Layout :=
  ⟨".nan", ".inf", fun point => -5 < point && point ≤ 16⟩

/-- The text of a number in a document. -/
def Number.toText : Number → String
  | int value => toString value
  | float value => layout.write value

/-- Whether two numbers are the same as mapping keys. -/
def Number.same : Number → Number → Bool
  | int a, int b => a == b
  | float a, float b => a.same b
  | _, _ => false

/-- The name of a tag, without the mark that introduces it. -/
structure Tag where
  name : String
  deriving DecidableEq, Repr, Inhabited

namespace Tag

/-- A tag from its written form, with or without the mark. The mark alone is a
name of its own. -/
def ofText (text : String) : Tag :=
  match text.toList with
  | '!' :: c :: rest => ⟨String.ofList (c :: rest)⟩
  | _ => ⟨text⟩

/-- The written form of a tag. -/
def toText (tag : Tag) : String := "!" ++ tag.name

end Tag

/-- A node of a document. -/
inductive Node where
  | null
  | bool (value : Bool)
  | number (value : Number)
  | text (value : String)
  | sequence (items : List Node)
  | mapping (entries : List (Node × Node))
  | tagged (tag : Tag) (inner : Node)
  deriving Repr, Inhabited

namespace Node

/-- The node without the tags it stands under. -/
def untag : Node → Node
  | tagged _ inner => inner.untag
  | node => node

/-- The second node under the tags of the first. -/
def retag : Node → Node → Node
  | tagged tag inner, node => tagged tag (inner.retag node)
  | _, node => node

/-- Whether the node stands under a tag. -/
def isTagged : Node → Bool
  | tagged .. => true
  | _ => false

/-- Whether the node is a mapping, tagged or not. -/
def isMapping (node : Node) : Bool :=
  match node.untag with
  | mapping _ => true
  | _ => false

/-- Whether the node is null, tagged or not. -/
def isNull (node : Node) : Bool :=
  match node.untag with
  | null => true
  | _ => false

/-- The text of a string node, tagged or not. -/
def text? (node : Node) : Option String :=
  match node.untag with
  | text s => some s
  | _ => none

/-- The name of a node's shape in messages. -/
def shape : Node → String
  | null => "null"
  | bool _ => "bool"
  | number _ => "number"
  | text _ => "string"
  | sequence _ => "sequence"
  | mapping _ => "mapping"
  | tagged .. => "tagged value"

/-- The text of an untagged scalar. Collections and tagged nodes have none. -/
def scalarText? : Node → Option String
  | null => some "null"
  | bool true => some "true"
  | bool false => some "false"
  | number n => some n.toText
  | text s => some s
  | sequence _ | mapping _ | tagged .. => none

/-- Whether the node, as a mapping's key, is the given string. A tagged key or a
scalar that merely reads the same is another key. -/
def isKey (key : String) : Node → Bool
  | text s => s == key
  | _ => false

end Node

/-- The entries of a mapping, in order. -/
abbrev Entries := List (Node × Node)

namespace Entries

/-- The node under a string key. -/
def get? (key : String) : Entries → Option Node
  | [] => none
  | (k, v) :: rest => if k.isKey key then some v else get? key rest

/-- The entries with `value` under the string key: in the place of the present
node, otherwise at the end. -/
def set (key : String) (value : Node) : Entries → Entries
  | [] => [(.text key, value)]
  | (k, v) :: rest => if k.isKey key then (k, value) :: rest else (k, v) :: set key value rest

end Entries

/-- The node under a string key of a mapping, tagged or not. -/
def Node.child? (node : Node) (key : String) : Option Node :=
  match node.untag with
  | .mapping entries => Entries.get? key entries
  | _ => none

end Trialbook

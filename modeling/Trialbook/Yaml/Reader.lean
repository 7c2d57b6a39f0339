import Trialbook.Fault
import Trialbook.Node.Same
import Trialbook.Yaml.Event.Grammar
import Trialbook.Yaml.Token.Lexer
import Trialbook.Yaml.Tree

/-!
# Reading a document

References are replaced by what they refer to, plain scalars get their meaning,
and no mapping may hold a key twice. Collections may be nested to a limited depth,
to which references add, and the number of references followed is limited too.
-/

namespace Trialbook.Yaml

/-- The number of collections that may stand around a node. -/
def maxDepth : Nat := 128

/-- How often references may be followed for each event of the document. -/
def followsPerEvent : Nat := 100

namespace Forest

/-- Reading with a limited number of references to follow. -/
abbrev Reading := StateT Nat Option

/-- The meaning of a plain scalar, unless it is a number too large for a node. -/
def plainNode? (text : String) : Option Node :=
  match Plain.read text with
  | .null => some .null
  | .bool b => some (.bool b)
  | .number n => some (.number n)
  | .text => some (.text text)
  | .tooWide => none

/-- A scalar under a tag. -/
def scalarNode? (tag : TagEffect) (plain : Bool) (text : String) : Option Node :=
  match tag with
  | .none => if plain then plainNode? text else some (.text text)
  | .label tag => (if plain then plainNode? text else some (.text text)).map (.tagged tag)
  | .bool => (Plain.bool? text).map .bool
  | .int =>
    match Plain.whole? text.toList with
    | some (.number n) => some (.number n)
    | _ => none
  | .float => (Plain.fraction? text.toList).map fun f => .number (.float f)
  | .null => (Plain.null? text).map fun _ => .null
  | .text => some (.text text)

/-- A collection under a tag. -/
def labelled (tag : TagEffect) (node : Node) : Node :=
  match tag with
  | .label tag => .tagged tag node
  | _ => node

/-- Whether no key comes twice. -/
def keysDistinct : Entries → Bool
  | [] => true
  | (key, _) :: rest => !(rest.any fun (k, _) => key.same k) && keysDistinct rest

/-- What a reference refers to, and any other tree itself. -/
def follow (f : Forest) : Tree → Reading Tree
  | .reference id => fun left =>
    match left, f.find? id with
    | left + 1, some tree => some (tree, left)
    | _, _ => none
  | tree => pure tree

/-- The node of a tree, with room for collections nested to the given depth. -/
def node (f : Forest) : Nat → Tree → Reading Node
  | 0, tree => do
    match ← f.follow tree with
    | .scalar tag plain text => liftM (scalarNode? tag plain text)
    | _ => failure
  | depth + 1, tree => do
    match ← f.follow tree with
    | .scalar tag plain text => liftM (scalarNode? tag plain text)
    | .sequence tag items => return labelled tag (.sequence (← items.mapM (f.node depth)))
    | .mapping tag entries =>
      let entries ← entries.mapM fun (key, value) => do
        let key ← f.node depth key
        let value ← f.node depth value
        return (key, value)
      if keysDistinct entries then return labelled tag (.mapping entries) else failure
    | .reference _ => failure

end Forest

/-- The document of its events. -/
def ofEvents? (events : List Event) : Option Node := do
  let forest ← Forest.ofEvents? events
  let (node, _) ← (forest.node maxDepth forest.root).run (followsPerEvent * events.length)
  return node

/-- The document in a text. A text without any stands for null. -/
def read? (text : String) : Option Node := do
  let tokens ← Token.ofText? text
  let events ← Event.ofTokens? tokens
  if events.isEmpty then return .null else ofEvents? events

/-- The document in a text that comes from the given file. -/
def readText (path text : String) : Except Fault Node :=
  match read? text with
  | some node => .ok node
  | none => .error (.unparsable path)

/-- The document in the bytes of the given file. -/
def readBytes (path : String) (bytes : ByteArray) : Except Fault Node :=
  match String.fromUTF8? bytes with
  | some text => readText path text
  | none => .error (.unreadable path "stream did not contain valid UTF-8")

end Trialbook.Yaml

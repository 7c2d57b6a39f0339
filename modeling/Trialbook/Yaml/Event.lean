import Trialbook.Node.Basic
import Trialbook.Yaml.Token

/-!
# Events

A document as a sequence of events: scalars, references to anchored nodes, and
the starts and ends of collections, whatever their style.
-/

namespace Trialbook.Yaml

/-- What a tag does to the node it stands at. -/
inductive TagEffect where
  /-- Nothing. -/
  | none
  /-- It stays with the node. -/
  | label (tag : Tag)
  /-- A scalar must be a truth value. -/
  | bool
  /-- A scalar must be a whole number. -/
  | int
  /-- A scalar must be a number, and is taken for a fraction. -/
  | float
  /-- A scalar must be null. -/
  | null
  /-- A scalar is a text. -/
  | text
  deriving DecidableEq, Repr

namespace TagEffect

/-- The tags of the core types begin with this. -/
def corePrefix : String := "tag:yaml.org,2002:"

/-- A tag that stays with its node, without the mark that introduces it. The mark
alone is a tag too. -/
def ofLocal (text : String) : TagEffect :=
  match text.toList with
  | '!' :: c :: rest => label (.ofText (String.ofList (c :: rest)))
  | _ => label (.ofText text)

/-- The effect of a tag with the given bytes. -/
def ofBytes (bytes : List UInt8) : TagEffect :=
  let isLocal := bytes.head? == some 0x21
  match String.fromUTF8? ⟨bytes.toArray⟩ with
  | Option.none => if isLocal then none else text
  | some tag =>
    if isLocal then ofLocal tag
    else if tag == corePrefix ++ "bool" then bool
    else if tag == corePrefix ++ "int" then int
    else if tag == corePrefix ++ "float" then float
    else if tag == corePrefix ++ "null" then null
    else text

end TagEffect

/-- What stands in front of a node. -/
structure Properties where
  anchor : Option String := none
  tag : Option TagEffect := none
  deriving DecidableEq, Repr

namespace Properties

/-- Whether nothing stands in front of the node. -/
def isEmpty (p : Properties) : Bool := p.anchor.isNone && p.tag.isNone

/-- The effect of the tag, if there is one. -/
def effect (p : Properties) : TagEffect := p.tag.getD .none

end Properties

/-- An event. -/
inductive Event where
  | scalar (properties : Properties) (plain : Bool) (text : String)
  | reference (name : String)
  | sequenceStart (properties : Properties)
  | mappingStart (properties : Properties)
  | collectionEnd
  deriving DecidableEq, Repr

/-- The node that is not written. -/
def Event.missing (properties : Properties) : Event := scalar properties true ""

end Trialbook.Yaml

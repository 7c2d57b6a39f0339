import Trialbook.Yaml.Spot

/-!
# Tokens

A document is read as a sequence of tokens. Some of them stand for characters,
the rest for what indentation says: where a collection in block style begins and
ends, and where a key begins that only its colon gives away.
-/

namespace Trialbook.Yaml

/-- A token. Tags are bytes, because what they abbreviate is put together before
it is read as text. -/
inductive Token where
  | versionDirective (major minor : Nat)
  | tagDirective (handle : String) (replacement : List UInt8)
  | documentStart
  | documentEnd
  | blockSequenceStart
  | blockMappingStart
  | blockEnd
  | flowSequenceStart
  | flowSequenceEnd
  | flowMappingStart
  | flowMappingEnd
  | blockEntry
  | flowEntry
  | key
  | value
  | reference (name : String)
  | anchor (name : String)
  | tag (handle : String) (suffix : List UInt8)
  | scalar (plain : Bool) (text : String)
  deriving DecidableEq, Repr

end Trialbook.Yaml

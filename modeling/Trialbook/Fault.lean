import Trialbook.Job.Language
import Trialbook.Node.Basic
import Trialbook.Text.Quoted

/-!
# What can go wrong

Every failure is a cause with the facts that belong to it. The wording of each
is in the one `message` function beside its type.
-/

namespace Trialbook

open Decimal (Layout)

/-- A node of the wrong shape. -/
structure Mismatch where
  /-- The place of the node. -/
  place : String
  expected : String
  /-- The shape of the node that was found. -/
  found : String
  deriving DecidableEq, Repr

namespace Mismatch

/-- The mismatch of a node at a place. -/
def ofNode (place expected : String) (found : Node) : Mismatch := ⟨place, expected, found.shape⟩

/-- The wording of a mismatch. -/
def message (m : Mismatch) : String :=
  "type mismatch at " ++ m.place ++ ": expected " ++ m.expected ++ ", found " ++ m.found

end Mismatch

/-- Why a node is not the record it should be. -/
inductive RecordFault where
  /-- A node of a kind that the field does not take. -/
  | invalidType (found : Node) (expected : String)
  /-- A field that comes twice. -/
  | duplicateField (name : String)
  /-- A word that is none of the known ones. -/
  | unknownWord (word : String) (known : List String)
  /-- A variant that is neither flags nor a record of them. -/
  | variantShape
  /-- A tag inside a variant. -/
  | variantTag
  /-- A list of the wrong shape. -/
  | list (cause : Mismatch)
  | axesNotMapping
  | axisNameNotString
  deriving Repr

namespace RecordFault

/-- Fractions in messages never have an exponent. -/
def layout : Layout := ⟨"NaN", "inf", fun _ => true⟩

/-- What a message calls a node, tags not counting. -/
def describe (node : Node) : String :=
  match node.untag with
  | .null => "unit value"
  | .bool b => "boolean `" ++ (if b then "true" else "false") ++ "`"
  | .number (.int n) => "integer `" ++ toString n ++ "`"
  | .number (.float f) => "floating point `" ++ layout.write f ++ "`"
  | .text s => "string " ++ Text.quoted s
  | .sequence _ => "sequence"
  | .mapping _ => "map"
  | .tagged .. => "enum"

/-- The wording of a fault in a record. -/
def message : RecordFault → String
  | invalidType found expected =>
    "invalid type: " ++ describe found ++ ", expected " ++ expected
  | duplicateField name => "duplicate field `" ++ name ++ "`"
  | unknownWord word known =>
    "unknown variant `" ++ word ++ "`, expected " ++
      " or ".intercalate (known.map fun k => "`" ++ k ++ "`")
  | variantShape => "data did not match any variant of untagged enum VariantSpec"
  | variantTag => "untagged and internally tagged enums do not support enum input"
  | list cause => cause.message
  | axesNotMapping => "iterate must be a mapping"
  | axisNameNotString => "iterate axis names must be strings"

end RecordFault

/-- Why a rule table cannot be used. -/
inductive TableFault where
  /-- Tokens that refer to one another in a circle, the last name being the one
  that closes it. -/
  | tokenCycle (names : List String)
  /-- A token whose fragment is no pattern. -/
  | invalidToken (name : String)
  /-- A rule that refers to a token the table does not declare. -/
  | undefinedToken (rule token : String)
  /-- A rule that expands to something that is no pattern. -/
  | invalidRule (rule : String)
  /-- A list of destinations with an item of the wrong shape. -/
  | destinationItem (rule found : String)
  /-- Destinations of the wrong shape. -/
  | destinations (rule found : String)
  deriving DecidableEq, Repr

/-- The wording of a fault in a rule table. -/
def TableFault.message : TableFault → String
  | tokenCycle names => "token cycle: " ++ " -> ".intercalate names
  | invalidToken name => "token <" ++ name ++ "> is not a valid regex"
  | undefinedToken rule token =>
    "rule '" ++ rule ++ "' references undefined token <" ++ token ++ ">"
  | invalidRule rule => "rule '" ++ rule ++ "' is not a valid pattern"
  | destinationItem rule found => "rule '" ++ rule ++ "' has a " ++ found ++ " destination"
  | destinations rule found =>
    "rule '" ++ rule ++ "' must map to null, a string or a list, found " ++ found

/-- Why the reading of a document, a migration or an expansion failed. -/
inductive Fault where
  /-- A file that cannot be read. -/
  | unreadable (path reason : String)
  /-- A file whose text is no document. -/
  | unparsable (path : String)
  /-- A document that is no settings record. -/
  | settings (path : String) (cause : RecordFault)
  | ruleTable (cause : TableFault)
  | mismatch (cause : Mismatch)
  | entry (name : String) (cause : RecordFault)
  | compiler (cause : RecordFault)
  | unknownVariant (name : String)
  | unknownDependencyKind (kind : String)
  | unsupportedLanguages (detected : List Language)
  | pathCollision (path : String)
  deriving Repr

/-- The wording of a fault. -/
def Fault.message : Fault → String
  | unreadable path reason => "cannot read " ++ path ++ ": " ++ reason
  | unparsable path => "cannot parse " ++ path
  | settings path cause => "cannot parse " ++ path ++ ": " ++ cause.message
  | ruleTable cause => "invalid rule table: " ++ cause.message
  | mismatch cause => cause.message
  | entry name cause => "invalid test entry '" ++ name ++ "': " ++ cause.message
  | compiler cause => "invalid compiler descriptor: " ++ cause.message
  | unknownVariant name => "unknown variant '" ++ name ++ "'"
  | unknownDependencyKind kind => "unknown dependency kind '" ++ kind ++ "'"
  | unsupportedLanguages detected =>
    "none of the detected languages [" ++
      ", ".intercalate (detected.map fun l => "\"" ++ l.tag ++ "\"") ++
      "] is supported by the compiler"
  | pathCollision path => "path collision at '" ++ path ++ "'"

end Trialbook

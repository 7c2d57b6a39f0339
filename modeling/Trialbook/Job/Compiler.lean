import Trialbook.Record.Decode

/-!
# Compiler descriptors

A descriptor holds a command for each language it can build and flags for each
variant. In a document it may stand under the key `compiler`, and a variant's
flags are a text or a record with one.
-/

namespace Trialbook

open Text (Dictionary)

/-- The commands and variants of a compiler. -/
structure Compiler where
  commands : Dictionary := {}
  variants : Dictionary := {}
  deriving DecidableEq, Repr, Inhabited

namespace Compiler

mutual

/-- Whether a tag stands anywhere in a node. -/
def hasTag : Node → Bool
  | .tagged .. => true
  | .sequence items => anyTag items
  | .mapping entries => anyEntryTag entries
  | .null | .bool _ | .number _ | .text _ => false

/-- Whether a tag stands anywhere in some nodes. -/
def anyTag : List Node → Bool
  | [] => false
  | node :: rest => hasTag node || anyTag rest

/-- Whether a tag stands anywhere in some entries. -/
def anyEntryTag : List (Node × Node) → Bool
  | [] => false
  | (key, value) :: rest => hasTag key || hasTag value || anyEntryTag rest

end

/-- Whether a key names the flags in a variant's record: by its word, or by the
number of the field. None if it can be no field at all. -/
def isFlagsKey? : Node → Option Bool
  | .text s => some (s == "args")
  | .number (.int n) => if 0 ≤ n then some (n == 0) else none
  | _ => none

/-- The flags in a variant's record. -/
def flagsFrom : Option String → Entries → Option String
  | flags, [] => flags
  | flags, (key, value) :: rest =>
    match isFlagsKey? key with
    | none => none
    | some false => flagsFrom flags rest
    | some true =>
      match flags, value with
      | none, .text s => flagsFrom (some s) rest
      | _, _ => none

/-- The flags of a variant. -/
def variantFlags (node : Node) : Except RecordFault String :=
  if hasTag node then .error .variantTag
  else
    match node with
    | .text s => .ok s
    | .mapping entries =>
      match flagsFrom none entries with
      | some flags => .ok flags
      | none => .error .variantShape
    | _ => .error .variantShape

/-- The descriptor of a record. -/
def ofRecord : Node → Except RecordFault Compiler :=
  Record.fields "struct CompilerDescriptor" ["commands", "variants"]
    (fun name value compiler => do
      match name with
      | "commands" => return { compiler with commands := ← Record.dictionary Record.text value }
      | _ => return { compiler with variants := ← Record.dictionary variantFlags value })
    {}

/-- The descriptor of a document. -/
def ofNode (node : Node) : Except Fault Compiler :=
  (ofRecord ((node.child? "compiler").getD node)).mapError .compiler

/-- Whether the compiler has a command for a language. -/
def supports (c : Compiler) (language : String) : Bool := c.commands.contains language

/-- The command for a language. -/
def command? (c : Compiler) (language : String) : Option String := c.commands.get? language

end Compiler

end Trialbook

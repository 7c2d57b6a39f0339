import Trialbook.Document.Rebuild
import Trialbook.Record.Decode

/-!
# Settings

How strictly a migration takes collisions, and an expansion what it looks up in
vain. Everything is lenient unless a settings document says otherwise.
-/

namespace Trialbook

/-- What to do when a variant, a kind of dependency or a language is looked up
in vain. -/
inductive LookupPolicy where
  /-- Go on without it. -/
  | ignore
  | error
  deriving DecidableEq, Repr, Inhabited

/-- How strict an expansion is. -/
structure ExpandOptions where
  variants : LookupPolicy := .ignore
  dependencies : LookupPolicy := .ignore
  language : LookupPolicy := .ignore
  deriving DecidableEq, Repr, Inhabited

/-- The settings of both halves. -/
structure Settings where
  collisions : CollisionPolicy := .overwrite
  expand : ExpandOptions := {}
  deriving DecidableEq, Repr, Inhabited

namespace Settings

/-- One of several words, written as a text or as a tag on null. -/
def word (known : List String) (node : Node) : Except RecordFault String :=
  match node with
  | .text s => if known.contains s then .ok s else .error (.unknownWord s known)
  | .tagged tag inner =>
    if !known.contains tag.name then .error (.unknownWord tag.name known)
    else
      match inner with
      | .null => .ok tag.name
      | inner => .error (.invalidType inner "unit")
  | node => .error (.invalidType node "a Value::Tagged enum")

/-- A policy for lookups. -/
def lookupPolicy (node : Node) : Except RecordFault LookupPolicy :=
  (word ["ignore", "error"] node).map fun w => if w == "error" then .error else .ignore

/-- A policy for collisions. -/
def collisionPolicy (node : Node) : Except RecordFault CollisionPolicy :=
  (word ["overwrite", "error"] node).map fun w => if w == "error" then .error else .overwrite

/-- The section on migrations. -/
def migrationSection : Node → Except RecordFault CollisionPolicy :=
  Record.fields "struct RewriteOptions" ["collisions"]
    (fun _ value _ => collisionPolicy value) .overwrite

/-- The section on expansions. -/
def expandSection : Node → Except RecordFault ExpandOptions :=
  Record.fields "struct ExpandOptions" ["variants", "dependencies", "language"]
    (fun name value options => do
      let policy ← lookupPolicy value
      match name with
      | "variants" => return { options with variants := policy }
      | "dependencies" => return { options with dependencies := policy }
      | _ => return { options with language := policy })
    {}

/-- The settings of a document. -/
def ofNode : Node → Except RecordFault Settings :=
  Record.fields "struct Settings" ["rewrite", "expand"]
    (fun name value settings => do
      match name with
      | "rewrite" => return { settings with collisions := ← migrationSection value }
      | _ => return { settings with expand := ← expandSection value })
    {}

end Settings

end Trialbook

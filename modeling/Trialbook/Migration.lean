import Trialbook.Document.Rebuild
import Trialbook.Rule.Bundled

/-!
# Migrating a document

A document is flattened under the name of its kind, unless it carries that name
already, and goes through two passes: by the modifiers, which restructure it and let
through what they do not match, and by the terminal rules, which place every
leaf and report those they have no place for. Each pass ends in a rebuilt
document.
-/

namespace Trialbook

/-- The kinds of documents. -/
inductive DocumentKind where
  | compiler
  | runtime
  | environment
  | te
  deriving DecidableEq, Repr

/-- The name of a kind, which is the first segment of every path. -/
def DocumentKind.name : DocumentKind → String
  | compiler => "compiler"
  | runtime => "runtime"
  | environment => "environment"
  | te => "te"

/-- Whether paths that no rule matches are reported. -/
inductive Strictness where
  | lenient
  | strict
  deriving DecidableEq, Repr

/-- What a migration found that did not stop it. -/
structure Report where
  /-- Paths that no terminal rule matched. They stay where they are. -/
  misses : List String := []
  /-- Paths that a rule without destinations removed. -/
  dropped : List String := []
  collisions : List Collision := []
  deriving DecidableEq, Repr

namespace Migration

/-- What becomes of one leaf, and how the report grows. -/
def moveLeaf (rules : RuleSet) (strictness : Strictness) (leaf : Leaf) (report : Report) :
    List Write × Report :=
  match rules.find? leaf.path with
  | none =>
    ([leaf.toWrite],
      if strictness = .strict then { report with misses := report.misses ++ [leaf.path] }
      else report)
  | some (rule, captures) =>
    match rule.destinations with
    | [] => ([], { report with dropped := report.dropped ++ [leaf.path] })
    | destinations =>
      (destinations.map fun d => ⟨d.render captures.named?, leaf.value, d.append⟩, report)

/-- What becomes of the leaves of a document, in order. -/
def pass (rules : RuleSet) (strictness : Strictness) :
    FlatView → Report → List Write × Report
  | [], report => ([], report)
  | leaf :: rest, report =>
    let (first, report) := moveLeaf rules strictness leaf report
    let (others, report) := pass rules strictness rest report
    (first ++ others, report)

/-- The document that a pass leaves behind, with its collisions reported. -/
def materialize (policy : CollisionPolicy) (writes : List Write) (report : Report) :
    Except RebuildFailure (Node × Report) := do
  let (document, collisions) ← rebuild policy writes
  return (document, { report with collisions := report.collisions ++ collisions })

/-- Whether a document carries the name of its kind: as its only key, outside
of any tag. -/
def carriesKind (kind : DocumentKind) : Node → Bool
  | .mapping [(key, _)] => key.isKey kind.name
  | _ => false

/-- The leaves of a document under the name of its kind. -/
def flattenUnder (kind : DocumentKind) (document : Node) : FlatView :=
  document.flattenAt (if carriesKind kind document then "" else kind.name)

/-- A document in the current layout. -/
def convert (document : Node) (kind : DocumentKind) (rules : RuleTable)
    (policy : CollisionPolicy) : Except RebuildFailure (Node × Report) := do
  let (writes, report) := pass rules.modifiers .lenient (flattenUnder kind document) {}
  let (staged, report) ← materialize policy writes report
  let (writes, report) := pass rules.terminal .strict (staged.flattenAt "") report
  materialize policy writes report

end Migration

end Trialbook

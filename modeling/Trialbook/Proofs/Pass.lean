import Trialbook.Migration
import Mathlib.Data.List.Basic

/-!
# What a pass of rules does, leaf by leaf

`Migration.pass` threads a report through the leaves, but nothing it writes
depends on that report. So a pass is told in two halves that do not know of
each other: the writes are those of every leaf in turn, and the report grows
at the end by the paths that no rule matched and by those that were dropped.

From this form the facts that later proofs need about a pass are facts about
one leaf. A pass moves values and makes none, and a leaf that is not dropped
goes to at least one place.
-/

namespace Trialbook

namespace RuleSet

/-- Whether no rule matches the path. -/
def misses (rules : RuleSet) (path : String) : Bool := (rules.find? path).isNone

/-- Whether the rule that matches the path has no destinations. -/
def drops (rules : RuleSet) (path : String) : Bool :=
  (rules.find? path).any fun found => found.1.destinations.isEmpty

/-- The places that a leaf goes to: its own if no rule matches it, otherwise
those that the first rule to match it names. -/
def writesOf (rules : RuleSet) (leaf : Leaf) : List Write :=
  match rules.find? leaf.path with
  | none => [leaf.toWrite]
  | some (rule, captures) =>
    rule.destinations.map fun d => ⟨d.render captures.named?, leaf.value, d.append⟩

/-- The places that a leaf at the path goes to, and whether it joins what is
there. -/
def placesOf (rules : RuleSet) (path : String) : List (String × Bool) :=
  match rules.find? path with
  | none => [(path, false)]
  | some (rule, captures) =>
    rule.destinations.map fun d => (d.render captures.named?, d.append)

/-- Where a leaf goes is a matter of its path alone. -/
theorem writesOf_eq (rules : RuleSet) (leaf : Leaf) :
    rules.writesOf leaf =
      (rules.placesOf leaf.path).map fun place => ⟨place.1, leaf.value, place.2⟩ := by
  rw [writesOf, placesOf]
  split
  · rfl
  · rw [List.map_map]
    rfl

theorem value_of_mem_writesOf {rules : RuleSet} {leaf : Leaf} {w : Write}
    (h : w ∈ rules.writesOf leaf) : w.value = leaf.value := by
  rw [writesOf] at h
  split at h
  · rw [List.mem_singleton.mp h]
    rfl
  · obtain ⟨d, _, rfl⟩ := List.mem_map.mp h
    rfl

theorem writesOf_eq_nil_iff {rules : RuleSet} {leaf : Leaf} :
    rules.writesOf leaf = [] ↔ rules.drops leaf.path = true := by
  rw [writesOf, drops]
  split <;> simp_all

end RuleSet

namespace Migration

theorem moveLeaf_eq (rules : RuleSet) (strictness : Strictness) (leaf : Leaf)
    (report : Report) :
    moveLeaf rules strictness leaf report =
      (rules.writesOf leaf,
        { report with
          misses := report.misses ++
            if strictness = .strict ∧ rules.misses leaf.path then [leaf.path] else []
          dropped := report.dropped ++ if rules.drops leaf.path then [leaf.path] else [] }) := by
  rw [moveLeaf, RuleSet.writesOf, RuleSet.misses, RuleSet.drops]
  cases hfind : rules.find? leaf.path with
  | none => cases strictness <;> simp
  | some found =>
      obtain ⟨⟨source, pattern, destinations⟩, captures⟩ := found
      cases destinations <;> simp

/-- The paths that a pass reports as matched by no rule. -/
def missed (rules : RuleSet) : Strictness → List String → List String
  | .lenient, _ => []
  | .strict, paths => paths.filter rules.misses

theorem missed_cons (rules : RuleSet) (strictness : Strictness) (path : String)
    (paths : List String) :
    missed rules strictness (path :: paths) =
      (if strictness = .strict ∧ rules.misses path then [path] else []) ++
        missed rules strictness paths := by
  cases strictness with
  | lenient => simp [missed]
  | strict => cases h : rules.misses path <;> simp [missed, h]

/-- A pass writes what each leaf writes and adds to the report in the order of
the leaves. -/
theorem pass_eq (rules : RuleSet) (strictness : Strictness) (flat : FlatView)
    (report : Report) :
    pass rules strictness flat report =
      (flat.flatMap rules.writesOf,
        { report with
          misses := report.misses ++ missed rules strictness (flat.map Leaf.path)
          dropped := report.dropped ++ (flat.map Leaf.path).filter rules.drops }) := by
  induction flat generalizing report with
  | nil => cases strictness <;> simp [pass, missed]
  | cons leaf flat ih =>
      have hdropped : (if rules.drops leaf.path then [leaf.path] else []) ++
          (flat.map Leaf.path).filter rules.drops =
            (leaf.path :: flat.map Leaf.path).filter rules.drops := by
        cases h : rules.drops leaf.path <;> simp [h]
      simp only [pass, moveLeaf_eq, ih]
      simp only [List.flatMap_cons, List.map_cons, missed_cons, List.append_assoc]
      rw [← hdropped]

theorem materialize_ok {policy : CollisionPolicy} {writes : List Write} {document : Node}
    {collisions : List Collision} (h : rebuild policy writes = .ok (document, collisions))
    (report : Report) :
    materialize policy writes report =
      .ok (document, { report with collisions := report.collisions ++ collisions }) := by
  rw [materialize, h]
  rfl

theorem materialize_error {policy : CollisionPolicy} {writes : List Write}
    {failure : RebuildFailure} (h : rebuild policy writes = .error failure)
    (report : Report) : materialize policy writes report = .error failure := by
  rw [materialize, h]
  rfl

theorem exists_rebuild_of_materialize {policy : CollisionPolicy} {writes : List Write}
    {document : Node} {report report' : Report}
    (h : materialize policy writes report = .ok (document, report')) :
    ∃ collisions, rebuild policy writes = .ok (document, collisions) := by
  cases hrebuild : rebuild policy writes with
  | error failure => rw [materialize_error hrebuild] at h; simp at h
  | ok built =>
      obtain ⟨last, collisions⟩ := built
      rw [materialize_ok hrebuild] at h
      injection h with hpair
      obtain ⟨rfl, -⟩ := Prod.mk.inj hpair
      exact ⟨collisions, rfl⟩

/-- A migration is its two rebuilds, the second from the leaves that the first
has left, and its report is what both have to say. -/
theorem convert_ok {document staged result : Node} {kind : DocumentKind} {rules : RuleTable}
    {policy : CollisionPolicy} {first second : List Collision}
    (hfirst : rebuild policy ((flattenUnder kind document).flatMap rules.modifiers.writesOf) =
      .ok (staged, first))
    (hsecond : rebuild policy ((staged.flattenAt "").flatMap rules.terminal.writesOf) =
      .ok (result, second)) :
    convert document kind rules policy = .ok (result,
      { misses := ((staged.flattenAt "").map Leaf.path).filter rules.terminal.misses
        dropped := ((flattenUnder kind document).map Leaf.path).filter rules.modifiers.drops ++
          ((staged.flattenAt "").map Leaf.path).filter rules.terminal.drops
        collisions := first ++ second }) := by
  simp only [convert, pass_eq, materialize_ok hfirst]
  show materialize policy _ _ = _
  rw [materialize_ok hsecond]
  simp [missed]

theorem convert_error_first {document : Node} {kind : DocumentKind} {rules : RuleTable}
    {policy : CollisionPolicy} {failure : RebuildFailure}
    (hfirst : rebuild policy ((flattenUnder kind document).flatMap rules.modifiers.writesOf) =
      .error failure) :
    convert document kind rules policy = .error failure := by
  simp only [convert, pass_eq, materialize_error hfirst]
  rfl

theorem convert_error_second {document staged : Node} {kind : DocumentKind} {rules : RuleTable}
    {policy : CollisionPolicy} {first : List Collision} {failure : RebuildFailure}
    (hfirst : rebuild policy ((flattenUnder kind document).flatMap rules.modifiers.writesOf) =
      .ok (staged, first))
    (hsecond : rebuild policy ((staged.flattenAt "").flatMap rules.terminal.writesOf) =
      .error failure) :
    convert document kind rules policy = .error failure := by
  simp only [convert, pass_eq, materialize_ok hfirst]
  show materialize policy _ _ = _
  rw [materialize_error hsecond]

theorem value_of_mem_writes {rules : RuleSet} {flat : FlatView} {w : Write}
    (h : w ∈ flat.flatMap rules.writesOf) : ∃ leaf ∈ flat, w.value = leaf.value := by
  obtain ⟨leaf, hleaf, hw⟩ := List.mem_flatMap.mp h
  exact ⟨leaf, hleaf, RuleSet.value_of_mem_writesOf hw⟩

end Migration

end Trialbook

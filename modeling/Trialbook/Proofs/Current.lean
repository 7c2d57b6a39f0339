import Trialbook.Proofs.NormalForm
import Trialbook.Proofs.Shape

/-!
# Documents in the current layout

A document is in the current layout of a rule table when it carries the name of
its kind and no modifier matches any of its leaves. A migration leaves such a
document as it is (`convert_of_isCurrent`), and it makes such a document of any
other if the table is stable: what a modifier writes, no modifier matches, and
the terminal rules write every leaf where it stands
(`isCurrent_of_convert`).

For the second half nothing has to be known about what the writes displace.
Whatever they do to each other, in the end a leaf stands where one of them went,
and that is all that a modifier could match.
-/

namespace Trialbook

open Node

/-- One migration is enough: the modifiers match nothing that they have
written and keep the first segment of every path, and the terminal rules keep
everything where it is. -/
structure RuleTable.IsStable (rules : RuleTable) : Prop where
  missed : ∀ leaf, ∀ w ∈ rules.modifiers.writesOf leaf, rules.modifiers.misses w.path = true
  head : ∀ leaf, ∀ w ∈ rules.modifiers.writesOf leaf,
    (Path.segments w.path).head? = (Path.segments leaf.path).head?
  kept : ∀ leaf, rules.terminal.writesOf leaf = [leaf.toWrite]

namespace RuleSet

theorem writesOf_of_misses {rules : RuleSet} {leaf : Leaf} (h : rules.misses leaf.path = true) :
    rules.writesOf leaf = [leaf.toWrite] := by
  have hnone : rules.find? leaf.path = none := by simpa [misses] using h
  rw [writesOf, hnone]

/-- Leaves that all stay where they are. -/
theorem flatMap_writesOf {rules : RuleSet} {flat : FlatView}
    (h : ∀ leaf ∈ flat, rules.writesOf leaf = [leaf.toWrite]) :
    flat.flatMap rules.writesOf = flat.map Leaf.toWrite := by
  rw [List.flatMap_congr h, List.map_eq_flatMap]

theorem filter_drops {rules : RuleSet} {flat : FlatView}
    (h : ∀ leaf ∈ flat, rules.writesOf leaf ≠ []) :
    (flat.map Leaf.path).filter rules.drops = [] := by
  rw [List.filter_eq_nil_iff]
  intro path hpath hdrops
  obtain ⟨leaf, hleaf, rfl⟩ := List.mem_map.mp hpath
  exact h leaf hleaf (writesOf_eq_nil_iff.mpr hdrops)

end RuleSet

namespace Migration

theorem rebuild_flattenAt {es : Entries} (h : (mapping es).WellKeyed)
    (hkeys : ∀ e ∈ es, e.1 ≠ text "") (policy : CollisionPolicy) :
    rebuild policy (((mapping es).flattenAt "").map Leaf.toWrite) = .ok (mapping es, []) := by
  have hgrown := Planted.entries []
    (fun e he key fs => Planted.leaves (h.value he) key fs) h.named
  rw [List.nil_append, ← flattenEntries_toTwig h hkeys, ← flattenAt_empty_path] at hgrown
  exact hgrown.writeAll

/-- A migration whose first pass writes the leaves of a document makes that
document. -/
theorem convert_of_writes {rules : RuleTable} (hstable : rules.IsStable) {document : Node}
    {kind : DocumentKind} {es : Entries} (h : (mapping es).WellKeyed)
    (hkeys : ∀ e ∈ es, e.1 ≠ text "")
    (hwrites : (flattenUnder kind document).flatMap rules.modifiers.writesOf =
      ((mapping es).flattenAt "").map Leaf.toWrite)
    (hdrops : ∀ leaf ∈ flattenUnder kind document, rules.modifiers.writesOf leaf ≠ [])
    (policy : CollisionPolicy) :
    ∃ misses, convert document kind rules policy = .ok (mapping es, { misses }) := by
  have hfirst : rebuild policy ((flattenUnder kind document).flatMap rules.modifiers.writesOf) =
      .ok (mapping es, []) := by
    rw [hwrites]
    exact rebuild_flattenAt h hkeys policy
  have hsecond : rebuild policy (((mapping es).flattenAt "").flatMap rules.terminal.writesOf) =
      .ok (mapping es, []) := by
    rw [RuleSet.flatMap_writesOf fun leaf _ => hstable.kept leaf]
    exact rebuild_flattenAt h hkeys policy
  have hnodrops := RuleSet.filter_drops hdrops
  have hnodrops' :
      (((mapping es).flattenAt "").map Leaf.path).filter rules.terminal.drops = [] := by
    refine RuleSet.filter_drops fun leaf _ => ?_
    rw [hstable.kept leaf]
    exact List.cons_ne_nil _ _
  have hconvert := convert_ok hfirst hsecond
  rw [hnodrops, hnodrops'] at hconvert
  exact ⟨_, hconvert⟩

/-! ## What migrates to itself -/

/-- The document carries the name of its kind, its keys can be told apart in a
path, and no modifier matches any of its leaves. -/
structure IsCurrent (rules : RuleTable) (kind : DocumentKind) (document : Node) : Prop where
  named : ∃ inner, document = mapping [(text kind.name, inner)]
  wellKeyed : document.WellKeyed
  missed : ∀ leaf ∈ document.flattenAt "", rules.modifiers.misses leaf.path = true

theorem name_ne_empty (kind : DocumentKind) : kind.name ≠ "" := by
  cases kind <;> decide

theorem key_ne_empty (kind : DocumentKind) (inner : Node) :
    ∀ e ∈ [(text kind.name, inner)], e.1 ≠ text "" := by
  intro e he
  rw [List.mem_singleton.mp he]
  simpa using name_ne_empty kind

theorem dotless_name (kind : DocumentKind) : Path.Dotless kind.name := by
  cases kind <;> decide

theorem carriesKind_iff {kind : DocumentKind} {document : Node} :
    carriesKind kind document = true ↔ ∃ inner, document = mapping [(text kind.name, inner)] := by
  constructor
  · intro h
    unfold carriesKind at h
    split at h
    · next key value =>
        rw [isKey_iff.mp h]
        exact ⟨value, rfl⟩
    · simp at h
  · rintro ⟨inner, rfl⟩
    exact isKey_iff.mpr rfl

theorem convert_of_isCurrent {rules : RuleTable} (hstable : rules.IsStable) {kind : DocumentKind}
    {document : Node} (h : IsCurrent rules kind document) (policy : CollisionPolicy) :
    ∃ misses, convert document kind rules policy = .ok (document, { misses }) := by
  obtain ⟨inner, rfl⟩ := h.named
  have hflat : flattenUnder kind (mapping [(text kind.name, inner)]) =
      (mapping [(text kind.name, inner)]).flattenAt "" := by
    rw [flattenUnder, if_pos (carriesKind_iff.mpr ⟨inner, rfl⟩)]
  have hstay : ∀ leaf ∈ (mapping [(text kind.name, inner)]).flattenAt "",
      rules.modifiers.writesOf leaf = [leaf.toWrite] := fun leaf hleaf =>
    RuleSet.writesOf_of_misses (h.missed leaf hleaf)
  refine convert_of_writes hstable h.wellKeyed (key_ne_empty kind inner) ?_ ?_ policy
  · rw [hflat]
    exact RuleSet.flatMap_writesOf hstay
  · rw [hflat]
    intro leaf hleaf
    rw [hstay leaf hleaf]
    exact List.cons_ne_nil _ _

/-! ## What a migration makes -/

/-- Where every path begins with one name, the document has that name alone. -/
theorem WrittenAt.exists_inner {paths : List String} {n : Node} {name : String}
    (h : WrittenAt paths n) (hn : n ≠ mapping [])
    (hhead : ∀ path ∈ paths, (Path.segments path).head? = some name) :
    ∃ inner, n = mapping [(text name, inner)] := by
  obtain ⟨es, rfl⟩ := h.isMapping
  have hes : es ≠ [] := fun hes => hn (by rw [hes])
  have hkey : ∀ e ∈ es, e.1 = text name := by
    intro e he
    obtain ⟨path, hpath, key, hkey, hfirst⟩ := h.exists_path he
    rw [hhead path hpath, Option.some.injEq] at hfirst
    rw [hkey, hfirst]
  obtain ⟨inner, rfl⟩ := h.wellKeyed.named.exists_singleton hes hkey
  exact ⟨inner, rfl⟩

theorem head?_segments_descend {path name : String} (hpath : path ≠ "")
    (h : (Path.segments path).head? = some name) (keys : List String) :
    (Path.segments (Path.descend path keys)).head? = some name := by
  induction keys generalizing path with
  | nil => exact h
  | cons key keys ih =>
      refine ih (Path.child_ne_empty hpath key) ?_
      rw [Path.child_of_ne_empty hpath, Path.segments_append_dot, List.head?_append, h]
      rfl

/-- Every leaf of a document stands under the name of its kind. -/
theorem head?_segments_of_mem_flattenUnder {kind : DocumentKind} {document : Node} {leaf : Leaf}
    (h : leaf ∈ flattenUnder kind document) :
    (Path.segments leaf.path).head? = some kind.name := by
  have hname : (Path.segments kind.name).head? = some kind.name := by
    rw [Path.segments_of_dotless (dotless_name kind)]
    rfl
  rw [flattenUnder] at h
  split at h
  · next hcarries =>
      obtain ⟨inner, rfl⟩ := carriesKind_iff.mp hcarries
      obtain ⟨t, ht, rfl⟩ := mem_flattenAt_empty_path h
      rw [Entries.leaves_singleton] at ht
      obtain ⟨s, -, rfl⟩ := List.mem_map.mp ht
      exact head?_segments_descend (name_ne_empty kind) hname s.keys
  · obtain ⟨t, -, rfl⟩ := mem_flattenAt h
    exact head?_segments_descend (name_ne_empty kind) hname t.keys

/-- What the modifiers make of a document is in the current layout, unless they
make nothing of it. -/
theorem isCurrent_of_rebuild {rules : RuleTable} (hstable : rules.IsStable) {kind : DocumentKind}
    {document staged : Node} {policy : CollisionPolicy} {collisions : List Collision}
    (h : rebuild policy ((flattenUnder kind document).flatMap rules.modifiers.writesOf) =
      .ok (staged, collisions)) (hne : staged ≠ mapping []) : IsCurrent rules kind staged := by
  have hstaged : WrittenAt (((flattenUnder kind document).flatMap
      rules.modifiers.writesOf).map Write.path) staged := by
    refine WrittenAt.rebuild (fun w hw => ?_) h
    obtain ⟨leaf, hleaf, hvalue⟩ := value_of_mem_writes hw
    obtain ⟨t, ht, rfl⟩ := mem_flattenAt hleaf
    rw [hvalue]
    exact IsLeaf.of_mem_leaves t ht
  have hwritten : ∀ path ∈ ((flattenUnder kind document).flatMap
      rules.modifiers.writesOf).map Write.path,
      (Path.segments path).head? = some kind.name ∧ rules.modifiers.misses path = true := by
    intro path hpath
    obtain ⟨w, hw, rfl⟩ := List.mem_map.mp hpath
    obtain ⟨leaf, hleaf, hw⟩ := List.mem_flatMap.mp hw
    refine ⟨?_, hstable.missed leaf w hw⟩
    rw [hstable.head leaf w hw]
    exact head?_segments_of_mem_flattenUnder hleaf
  obtain ⟨inner, rfl⟩ := hstaged.exists_inner hne fun path hpath => (hwritten path hpath).1
  exact ⟨⟨inner, rfl⟩, hstaged.wellKeyed, fun leaf hleaf =>
    (hwritten _ (hstaged.path_mem (key_ne_empty kind inner) hleaf)).2⟩

/-- The terminal rules write down what the modifiers have left. -/
theorem rebuild_terminal {rules : RuleTable} (hstable : rules.IsStable) {kind : DocumentKind}
    {document staged : Node} {policy : CollisionPolicy} {collisions : List Collision}
    (h : rebuild policy ((flattenUnder kind document).flatMap rules.modifiers.writesOf) =
      .ok (staged, collisions)) :
    rebuild policy ((staged.flattenAt "").flatMap rules.terminal.writesOf) = .ok (staged, []) := by
  rw [RuleSet.flatMap_writesOf fun leaf _ => hstable.kept leaf]
  by_cases hne : staged = mapping []
  · subst hne
    rw [flattenAt_empty_path, flattenEntries, List.map_nil]
    rfl
  · have hcurrent := isCurrent_of_rebuild hstable h hne
    obtain ⟨inner, rfl⟩ := hcurrent.named
    exact rebuild_flattenAt hcurrent.wellKeyed (key_ne_empty kind inner) policy

/-- A migration by stable rules is what its first rebuild makes. -/
theorem rebuild_of_convert {rules : RuleTable} (hstable : rules.IsStable) {kind : DocumentKind}
    {document result : Node} {policy : CollisionPolicy} {report : Report}
    (h : convert document kind rules policy = .ok (result, report)) :
    rebuild policy ((flattenUnder kind document).flatMap rules.modifiers.writesOf) =
      .ok (result, report.collisions) := by
  obtain ⟨staged, first, second, hfirst, hsecond, hcollisions⟩ := exists_rebuilds h
  rw [rebuild_terminal hstable hfirst] at hsecond
  injection hsecond with hpair
  obtain ⟨rfl, rfl⟩ := Prod.mk.inj hpair
  rw [hfirst, hcollisions, List.append_nil]

theorem exists_convert_of_rebuild {rules : RuleTable} (hstable : rules.IsStable)
    {kind : DocumentKind} {document result : Node} {policy : CollisionPolicy}
    {collisions : List Collision}
    (h : rebuild policy ((flattenUnder kind document).flatMap rules.modifiers.writesOf) =
      .ok (result, collisions)) :
    ∃ report, convert document kind rules policy = .ok (result, report) ∧
      report.collisions = collisions := by
  refine ⟨_, convert_ok h (rebuild_terminal hstable h), ?_⟩
  exact List.append_nil collisions

theorem isCurrent_of_convert {rules : RuleTable} (hstable : rules.IsStable) {kind : DocumentKind}
    {document result : Node} {policy : CollisionPolicy} {report : Report}
    (h : convert document kind rules policy = .ok (result, report))
    (hresult : result ≠ mapping []) :
    IsCurrent rules kind result :=
  isCurrent_of_rebuild hstable (rebuild_of_convert hstable h) hresult

end Migration

end Trialbook

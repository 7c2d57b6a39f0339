import Trialbook.Proofs.Growth
import Trialbook.Proofs.Policy
import Trialbook.Proofs.RoundTrip
import Mathlib.Data.List.Nodup

/-!
# Rebuilt documents are in normal form

Whatever writes do to each other, the document that they leave has nothing in it but
what they wrote. Its keys are segments of their paths, its leaves stand at their paths,
one leaf at each, and a mapping is empty only where an empty mapping was written: the
mappings that a walk makes on its way have an entry from the beginning. `WrittenAt` is
what each write keeps of this.

A document of this kind comes back from its flat view as it was, which is why a second
pass may start from the leaves that a first one has left. All that can be in the way is
an empty key at the root, which the paths rule out.
-/

namespace Trialbook

open Node

/-! ## One leaf at each path -/

theorem Entries.nodup_keys_leaves {es : Entries} (h : es.Named)
    (hvalues : ∀ e ∈ es, (e.2.leaves.map Twig.keys).Nodup) :
    ((leaves es).map Twig.keys).Nodup := by
  induction es with
  | nil => simp
  | cons e es ih =>
      obtain ⟨k, v⟩ := e
      obtain ⟨⟨key, rfl, -, hnone⟩, hes⟩ := Named.cons_iff.mp h
      have hunder : (v.leaves.map (Twig.under key)).map Twig.keys =
          (v.leaves.map Twig.keys).map (key :: ·) := by
        rw [List.map_map, List.map_map]
        rfl
      have hfirst : ((v.leaves.map Twig.keys).map (key :: ·)).Nodup :=
        (hvalues _ List.mem_cons_self).map (List.cons_injective (a := key))
      rw [leaves_cons, List.map_append]
      show ((v.leaves.map (Twig.under key)).map Twig.keys ++ _).Nodup
      rw [hunder, List.nodup_append]
      refine ⟨hfirst, ih hes fun e he => hvalues e (List.mem_cons_of_mem _ he), ?_⟩
      intro keys hkeys keys' hkeys' heq
      obtain ⟨own, -, rfl⟩ := List.mem_map.mp hkeys
      obtain ⟨t, ht, rfl⟩ := List.mem_map.mp hkeys'
      obtain ⟨e', he', s, -, rfl⟩ := mem_leaves.mp ht
      obtain ⟨other, hother, -⟩ := hes.dotless e' he'
      rw [hother] at heq
      exact get?_eq_none_iff.mp hnone e' he' ((List.cons.inj heq).1 ▸ hother)

theorem Node.WellKeyed.nodup_keys {n : Node} (h : n.WellKeyed) :
    (n.leaves.map Twig.keys).Nodup := by
  induction h with
  | leaf h => simp [leaves_of_not_mapping h]
  | @mapping es named values ih =>
      cases es with
      | nil => simp
      | cons e es =>
          rw [leaves_mapping (List.cons_ne_nil e es)]
          exact Entries.nodup_keys_leaves named ih

theorem nodup_flattenAt_paths {es : Entries} (h : (mapping es).WellKeyed)
    (hkeys : ∀ e ∈ es, e.1 ≠ text "") :
    (((mapping es).flattenAt "").map Leaf.path).Nodup := by
  have hsegments : (((mapping es).flattenAt "").map Leaf.path).map Path.segments =
      (Entries.leaves es).map Twig.keys := by
    rw [flattenAt_empty_path, ← flattenEntries_toTwig h hkeys, List.map_map, List.map_map]
    rfl
  have hnodup : ((Entries.leaves es).map Twig.keys).Nodup :=
    Entries.nodup_keys_leaves h.named fun e he => (h.value he).nodup_keys
  rw [← hsegments] at hnodup
  exact hnodup.of_map _

/-! ## What writes leave -/

namespace Migration

/-- A mapping that was written at these paths and nowhere else. -/
structure WrittenAt (paths : List String) (n : Node) : Prop where
  isMapping : ∃ es, n = mapping es
  wellKeyed : n.WellKeyed
  keys : ∀ t ∈ n.leaves, t.keys = [] ∨ ∃ path ∈ paths, t.keys = Path.segments path

variable {policy : CollisionPolicy} {n m : Node} {ws : List Write} {cs : List Collision}

theorem growth_of_write {w : Write} {c : Option Collision} (h : n.write w = some (m, c)) :
    Growth w.value w.append (Path.segments w.path) n m := by
  rw [write_eq, Option.map_eq_some_iff] at h
  obtain ⟨written, hwritten, hpair⟩ := h
  obtain ⟨rfl, -⟩ := Prod.mk.inj hpair
  exact growth_of_writeAt (Path.segments_ne_nil w.path) hwritten

namespace WrittenAt

variable {paths : List String}

theorem write {w : Write} {c : Option Collision} (h : WrittenAt paths n) (hpath : w.path ∈ paths)
    (hvalue : w.value.IsLeaf) (hwrite : n.write w = some (m, c)) : WrittenAt paths m := by
  have hgrowth := growth_of_write hwrite
  refine ⟨?_, ?_, ?_⟩
  · obtain ⟨es, rfl⟩ := h.isMapping
    exact hgrowth.exists_entries
  · exact hgrowth.wellKeyed h.wellKeyed hvalue.wellKeyed fun key hkey =>
      Path.dotless_of_mem_segments hkey
  · intro t ht
    rcases hgrowth.keys_of_mem_leaves hvalue t ht with ⟨s, hs, hsame⟩ | hkeys
    · rw [← hsame]
      exact h.keys s hs
    · exact Or.inr ⟨w.path, hpath, hkeys⟩

theorem rebuild (hws : ∀ w ∈ ws, w.value.IsLeaf) (h : rebuild policy ws = .ok (n, cs)) :
    WrittenAt (ws.map Write.path) n := by
  refine writeAll_keeps h ?_ ⟨⟨[], rfl⟩, .mapping .nil (by simp), by simp⟩
  intro n m w c hw hwrite hn
  exact hn.write (List.mem_map_of_mem hw) (hws w hw) hwrite

theorem exists_path {es : Entries} (h : WrittenAt paths (mapping es)) {e : Node × Node}
    (he : e ∈ es) : ∃ path ∈ paths, ∃ key, e.1 = text key ∧
      (Path.segments path).head? = some key := by
  obtain ⟨key, hkey, -⟩ := h.wellKeyed.named.dotless e he
  obtain ⟨s, hs⟩ := List.exists_mem_of_ne_nil _ (leaves_ne_nil e.2)
  have ht : s.under e.1.keyText ∈ Entries.leaves es := Entries.mem_leaves.mpr ⟨e, he, s, hs, rfl⟩
  rcases h.keys _ (Entries.mem_leaves_mapping ht) with hnil | ⟨path, hpath, hsame⟩
  · simp at hnil
  · refine ⟨path, hpath, key, hkey, ?_⟩
    rw [← hsame, hkey]
    rfl

/-- The leaves of such a document stand at the paths as they were written. -/
theorem path_mem {es : Entries} (h : WrittenAt paths (mapping es))
    (hkeys : ∀ e ∈ es, e.1 ≠ text "") {leaf : Leaf} (hleaf : leaf ∈ (mapping es).flattenAt "") :
    leaf.path ∈ paths := by
  have hmem : leaf.toTwig ∈ Entries.leaves es := by
    rw [← flattenEntries_toTwig h.wellKeyed hkeys, ← flattenAt_empty_path]
    exact List.mem_map_of_mem hleaf
  rcases h.keys _ (Entries.mem_leaves_mapping hmem) with hnil | ⟨path, hpath, hsame⟩
  · exact absurd hnil (Path.segments_ne_nil leaf.path)
  · have hsegments : Path.segments leaf.path = Path.segments path := hsame
    rw [← Path.ofSegments_segments leaf.path, hsegments, Path.ofSegments_segments]
    exact hpath

end WrittenAt

/-- An empty mapping below the root is the value of a write. -/
theorem exists_write_of_hollow (hws : ∀ w ∈ ws, w.value.IsLeaf)
    (h : Trialbook.rebuild policy ws = .ok (n, cs)) {t : Twig} (ht : t ∈ n.leaves)
    (hkeys : t.keys ≠ []) (hhollow : t.value = mapping []) :
    ∃ w ∈ ws, Path.segments w.path = t.keys ∧ w.append = false ∧ w.value = mapping [] := by
  revert t
  refine writeAll_keeps (P := fun n => ∀ {t : Twig}, t ∈ n.leaves → t.keys ≠ [] →
    t.value = mapping [] → ∃ w ∈ ws, Path.segments w.path = t.keys ∧ w.append = false ∧
      w.value = mapping []) h ?_ ?_
  · intro n m w c hw hwrite hn t ht hkeys hhollow
    rcases (growth_of_write hwrite).hollow_of_mem_leaves (hws w hw) ht hhollow with
      hold | ⟨hplace, happend, hvalue⟩
    · exact hn hold hkeys hhollow
    · exact ⟨w, hw, hplace.symm, happend, hvalue⟩
  · intro t ht hkeys
    rw [leaves_mapping_nil, List.mem_singleton] at ht
    exact absurd (congrArg Twig.keys ht) hkeys

/-- A document that writes of leaves have left, in whatever conflict with each other, is
a mapping with keys that read as one segment each, has one leaf at each path of its flat
view, which is the path of a write, and has no empty mapping below the root but where one
was assigned. It is what its flat view rebuilds, without a collision. -/
theorem materialize_normalForm {writes : List Write} {report report' : Report} {document : Node}
    (hvalues : ∀ w ∈ writes, w.value.IsLeaf)
    (hpaths : ∀ w ∈ writes, w.path ≠ "" ∧ w.path.toList.head? ≠ some '.')
    (h : materialize policy writes report = .ok (document, report')) :
    (∃ es, document = mapping es) ∧ document.WellKeyed ∧
    (∀ leaf ∈ document.flattenAt "", leaf.path ∈ writes.map Write.path) ∧
    ((document.flattenAt "").map Leaf.path).Nodup ∧
    (∀ t ∈ document.leaves, t.keys ≠ [] → t.value = mapping [] →
      ∃ w ∈ writes, Path.segments w.path = t.keys ∧ w.append = false ∧ w.value = mapping []) ∧
    unflatten (document.flattenAt "") = .ok (document, []) := by
  obtain ⟨collisions, hrebuild⟩ := exists_rebuild_of_materialize h
  have hwritten := WrittenAt.rebuild hvalues hrebuild
  obtain ⟨es, rfl⟩ := hwritten.isMapping
  -- an empty key at the root would be the first segment of a path
  have hkeys : ∀ e ∈ es, e.1 ≠ text "" := by
    intro e he hempty
    obtain ⟨path, hpath, key, hkey, hfirst⟩ := hwritten.exists_path he
    obtain ⟨w, hw, rfl⟩ := List.mem_map.mp hpath
    have hnot := Path.head?_segments_ne_empty (hpaths w hw).1 (hpaths w hw).2
    rw [hkey, Node.text.injEq] at hempty
    exact hnot (hempty ▸ hfirst)
  refine ⟨⟨es, rfl⟩, hwritten.wellKeyed, fun leaf hleaf => hwritten.path_mem hkeys hleaf,
    nodup_flattenAt_paths hwritten.wellKeyed hkeys, ?_, ?_⟩
  · intro t ht hbelow hhollow
    exact exists_write_of_hollow hvalues hrebuild ht hbelow hhollow
  · exact (unflatten_flattenAt hwritten.wellKeyed).1 es rfl hkeys

/-- A write that a tagged mapping swallows, and a mapping that gives way to a sequence and
that to a mapping again, with an empty one under an empty key. -/
theorem materialize_normalForm_displaced :
    let writes : List Write := [⟨"a", tagged ⟨"t"⟩ (mapping []), false⟩, ⟨"a.b", null, false⟩,
      ⟨"c.d.e", bool true, false⟩, ⟨"c", text "x", true⟩, ⟨"c.", mapping [], false⟩]
    let document := mapping [(text "a", tagged ⟨"t"⟩ (mapping [])),
      (text "c", mapping [(text "", mapping [])])]
    (∀ w ∈ writes, w.value.IsLeaf) ∧
    (∀ w ∈ writes, w.path ≠ "" ∧ w.path.toList.head? ≠ some '.') ∧
    materialize .overwrite writes {} =
      .ok (document, { collisions := [⟨"c", .subtreeReplaced⟩, ⟨"c", .leafReplaced⟩] }) ∧
    document.WellKeyed ∧ ((document.flattenAt "").map Leaf.path).Nodup ∧
    unflatten (document.flattenAt "") = .ok (document, []) := by
  intro writes document
  have hvalues : ∀ w ∈ writes, w.value.IsLeaf := by
    simp [writes, IsLeaf, leaves]
  have hpaths : ∀ w ∈ writes, w.path ≠ "" ∧ w.path.toList.head? ≠ some '.' := by
    decide
  have hdocument : materialize .overwrite writes {} =
      .ok (document, { collisions := [⟨"c", .subtreeReplaced⟩, ⟨"c", .leafReplaced⟩] }) := rfl
  obtain ⟨-, hkeyed, -, hnodup, -, hback⟩ := materialize_normalForm hvalues hpaths hdocument
  exact ⟨hvalues, hpaths, hdocument, hkeyed, hnodup, hback⟩

end Migration

end Trialbook

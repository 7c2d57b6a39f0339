import Trialbook.Document.Rebuild
import Trialbook.Proofs.Leaves
import Trialbook.Proofs.Walk

/-!
# A document comes back from its flat view

Flattening walks the tree with a path for an accumulator, and rebuilding walks
a path and grows the tree. Neither knows of the other. What ties them together
is the shape of a partly rebuilt document: the entries of a mapping that are
done stand in front, and the writes of the next entry only ever touch what
that entry has grown so far.

So the proof follows the document. `Planted` is a run of writes none of which
meets anything, told with keys in place of paths. Such a run below one key is
a run of the mapping around it (`Planted.under`), and a run from nothing
may as well begin at a missing key (`Planted.under_new`), because null leaves
and empty mappings are leaves of their own and every subtree has at least one.
-/

namespace Trialbook

open Node

/-- Leaves put into a node one after the other, none of them on anything. -/
inductive Planted : Node → List Twig → Node → Prop
  | nil {n : Node} : Planted n [] n
  | cons {n m n' : Node} {t : Twig} {ts : List Twig}
      (first : writeAt t.value false t.keys n = some ⟨m, none⟩) (others : Planted m ts n') :
      Planted n (t :: ts) n'

namespace Planted

theorem append {n m n' : Node} {ts us : List Twig} (h : Planted n ts m)
    (h' : Planted m us n') : Planted n (ts ++ us) n' := by
  induction h with
  | nil => exact h'
  | cons first _ ih => exact .cons first (ih h')

/-- What happens below a key happens in the mapping. -/
theorem under {key : String} {n n' : Node} {ts : List Twig} (h : Planted n ts n')
    (hkeys : ∀ t ∈ ts, t.keys ≠ []) {es : Entries} (hget : Entries.get? key es = some n) :
    Planted (mapping es) (ts.map (Twig.under key)) (mapping (Entries.set key n' es)) := by
  induction h generalizing es with
  | nil => rw [Entries.set_get? hget]; exact .nil
  | @cons n m n' t ts first _ ih =>
      have hrest : ∀ t ∈ ts, t.keys ≠ [] := fun t ht => hkeys t (List.mem_cons_of_mem _ ht)
      have hothers := ih hrest (Entries.get?_set_self key m es)
      rw [Entries.set_set] at hothers
      refine .cons ?_ hothers
      rw [Twig.under_keys, Twig.under_value,
        writeAt_mapping_old hget (hkeys t List.mem_cons_self), first]
      rfl

/-- What grows out of nothing grows at the end of a mapping without the key. -/
theorem under_new {key : String} {n' : Node} {ts : List Twig}
    (h : Planted (mapping []) ts n') (hts : ts ≠ []) (hkeys : ∀ t ∈ ts, t.keys ≠ [])
    {es : Entries} (hnone : Entries.get? key es = none) :
    Planted (mapping es) (ts.map (Twig.under key)) (mapping (es ++ [(text key, n')])) := by
  cases h with
  | nil => exact absurd rfl hts
  | @cons _ m _ t ts first others =>
      obtain ⟨next, rest, hkey⟩ := List.exists_cons_of_ne_nil (hkeys t List.mem_cons_self)
      -- the first leaf finds nothing and makes the key, the others find the key
      have hm : m = chain t.keys t.value := by
        rw [hkey, writeAt_mapping_new rfl, Option.some.injEq, Written.mk.injEq] at first
        rw [← first.1, hkey]
        rfl
      have hget : Entries.get? key (es ++ [(text key, m)]) = some m := by
        rw [Entries.get?_append_of_none hnone]
        simp [Entries.get?]
      have hothers := others.under (fun t ht => hkeys t (List.mem_cons_of_mem _ ht)) hget
      rw [Entries.set_append_cons hnone] at hothers
      refine .cons ?_ hothers
      rw [Twig.under_keys, writeAt_mapping_new hnone, hm]
      rfl

theorem singleton {key : String} {es : Entries} (hnone : Entries.get? key es = none)
    (n : Node) : Planted (mapping es) [⟨[key], n⟩] (mapping (es ++ [(text key, n)])) := by
  refine .cons ?_ .nil
  rw [writeAt_mapping_new hnone]
  rfl

/-- The entries after those that are done, given that each of their nodes can
be planted at a missing key. -/
theorem entries (done : Entries) {es : Entries}
    (hvalues : ∀ e ∈ es, ∀ (key : String) (fs : Entries), Entries.get? key fs = none →
      Planted (mapping fs) (e.2.leaves.map (Twig.under key))
        (mapping (fs ++ [(text key, e.2)])))
    (hnamed : (done ++ es).Named) :
    Planted (mapping done) (Entries.leaves es) (mapping (done ++ es)) := by
  induction es generalizing done with
  | nil => simpa using nil
  | cons e es ih =>
      obtain ⟨k, v⟩ := e
      obtain ⟨key, rfl, _⟩ := hnamed.dotless (k, v) (by simp)
      have hnone : Entries.get? key done = none := by
        rw [Entries.get?_eq_none_iff]
        intro d hd heq
        have hdistinct := hnamed.distinct
        rw [List.map_append, List.nodup_append] at hdistinct
        exact hdistinct.2.2 d.1 (List.mem_map_of_mem hd) (text key) (by simp) heq
      have hfirst := hvalues (text key, v) List.mem_cons_self key done hnone
      have hothers := ih (done ++ [(text key, v)])
        (fun e he => hvalues e (List.mem_cons_of_mem _ he)) (by simpa using hnamed)
      rw [Entries.leaves_cons]
      rw [List.append_assoc, List.singleton_append] at hothers
      exact hfirst.append hothers

/-- The leaves of a document make the document again, under any key that is
not there yet. -/
theorem leaves {n : Node} (h : n.WellKeyed) (key : String) (es : Entries)
    (hnone : Entries.get? key es = none) :
    Planted (mapping es) (n.leaves.map (Twig.under key)) (mapping (es ++ [(text key, n)])) := by
  induction h generalizing key es with
  | leaf h => rw [leaves_of_not_mapping h]; exact singleton hnone _
  | @mapping fs named values ih =>
      by_cases hfs : fs = []
      · subst hfs
        rw [leaves_mapping_nil]
        exact singleton hnone _
      · have hgrown := entries [] (fun e he key fs hkey => ih e he key fs hkey) named
        have hleaves := leaves_mapping hfs
        rw [hleaves]
        exact hgrown.under_new (hleaves ▸ leaves_ne_nil _)
          (fun t ht => keys_ne_nil_of_mem ht) hnone

end Planted

/-! ## From keys to paths

Up to here no path was split or put together. A flat view has paths for keys,
and reading its leaves back as twigs gives the leaves of the document again
wherever the keys can be told apart in a path. -/

/-- The leaf with the segments of its path for keys. -/
def Leaf.toTwig (leaf : Leaf) : Twig := ⟨Path.segments leaf.path, leaf.value⟩

theorem Planted.writeAll {policy : CollisionPolicy} {n n' : Node} {flat : FlatView}
    (h : Planted n (flat.map Leaf.toTwig) n') :
    n.writeAll policy (flat.map Leaf.toWrite) = .ok (n', []) := by
  induction flat generalizing n with
  | nil =>
      cases h
      rw [List.map_nil, Node.writeAll]
  | cons leaf flat ih =>
      cases h with
      | @cons _ m _ _ _ first others =>
          have hwrite : n.write leaf.toWrite = some (m, none) := by
            rw [write_eq]
            show (writeAt leaf.toTwig.value false leaf.toTwig.keys n).map _ = _
            rw [first]
            rfl
          rw [List.map_cons, Node.writeAll, hwrite]
          exact ih others

theorem Twig.toTwig_toLeaf {name : String} (hname : name ≠ "") (hdot : Path.Dotless name)
    {t : Twig} (hkeys : ∀ key ∈ t.keys, Path.Dotless key) :
    (t.toLeaf name).toTwig = t.under name := by
  rw [Leaf.toTwig, Twig.toLeaf, Path.segments_descend hname hkeys,
    Path.segments_of_dotless hdot]
  rfl

namespace Node

theorem flattenAt_toTwig {n : Node} (h : n.WellKeyed) {name : String} (hname : name ≠ "")
    (hdot : Path.Dotless name) :
    (n.flattenAt name).map Leaf.toTwig = n.leaves.map (Twig.under name) := by
  rw [flattenAt_of_ne_empty hname, List.map_map]
  apply List.map_congr_left
  intro t ht
  exact Twig.toTwig_toLeaf hname hdot (h.dotless_of_mem_leaves t ht)

/-- Without a path in front, the first key of every leaf has to be one that the
empty path does not swallow. -/
theorem flattenEntries_toTwig {es : Entries} (h : (mapping es).WellKeyed)
    (hkeys : ∀ e ∈ es, e.1 ≠ text "") :
    (flattenEntries "" es).map Leaf.toTwig = Entries.leaves es := by
  induction es with
  | nil => rw [flattenEntries]; simp
  | cons e es ih =>
      obtain ⟨k, v⟩ := e
      obtain ⟨⟨key, rfl, hdot, _⟩, hv, hes⟩ := WellKeyed.cons_iff.mp h
      have hne : key ≠ "" := by
        rintro rfl
        exact hkeys _ List.mem_cons_self rfl
      rw [flattenEntries, List.map_append, Entries.leaves_cons,
        ih hes fun e he => hkeys e (List.mem_cons_of_mem _ he)]
      exact congrArg (· ++ Entries.leaves es) (flattenAt_toTwig hv hne hdot)

end Node

/-- A document of which each key reads as one segment comes back from its flat
view as it was, under its own keys if none of the first ones is empty and under
any name. No write of the rebuild meets anything. -/
theorem unflatten_flattenAt {document : Node} (h : document.WellKeyed) :
    (∀ es, document = mapping es → (∀ e ∈ es, e.1 ≠ text "") →
      unflatten (document.flattenAt "") = .ok (document, [])) ∧
    (∀ name, name ≠ "" → Path.Dotless name →
      unflatten (document.flattenAt name) = .ok (mapping [(text name, document)], [])) := by
  refine ⟨?_, ?_⟩
  · rintro es rfl hkeys
    have hgrown := Planted.entries []
      (fun e he key fs => Planted.leaves (h.value he) key fs) h.named
    rw [List.nil_append, ← flattenEntries_toTwig h hkeys, ← flattenAt_empty_path] at hgrown
    exact hgrown.writeAll
  · intro name hname hdot
    have hgrown := Planted.leaves h name [] rfl
    rw [← flattenAt_toTwig h hname hdot] at hgrown
    exact hgrown.writeAll

/-- A null, an empty mapping under an empty key, and a tag over keys with dots. -/
theorem unflatten_flattenAt_nested :
    let document := mapping [
      (text "a", mapping [(text "b", null), (text "", mapping [])]),
      (text "c", tagged ⟨"t"⟩ (mapping [(text "x.y", null)]))]
    document.WellKeyed ∧ unflatten (document.flattenAt "") = .ok (document, []) ∧
      unflatten (document.flattenAt "te") = .ok (mapping [(text "te", document)], []) := by
  intro document
  have hempty : (mapping []).WellKeyed := .mapping .nil (by simp)
  have hinner : (mapping [(text "b", null), (text "", mapping [])]).WellKeyed :=
    WellKeyed.cons_iff.mpr ⟨⟨"b", rfl, by decide, rfl⟩, .leaf (by simp),
      WellKeyed.cons_iff.mpr ⟨⟨"", rfl, by decide, rfl⟩, hempty, hempty⟩⟩
  have h : document.WellKeyed :=
    WellKeyed.cons_iff.mpr ⟨⟨"a", rfl, by decide, rfl⟩, hinner,
      WellKeyed.cons_iff.mpr ⟨⟨"c", rfl, by decide, rfl⟩, .leaf (by simp), hempty⟩⟩
  exact ⟨h, (unflatten_flattenAt h).1 _ rfl (by simp),
    (unflatten_flattenAt h).2 "te" (by decide) (by decide)⟩

end Trialbook

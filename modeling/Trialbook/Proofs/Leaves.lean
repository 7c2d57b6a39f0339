import Trialbook.Document.Flat
import Trialbook.Proofs.Lookup
import Trialbook.Proofs.Paths

/-!
# The leaves of a document, by segments

A flat view names leaves by their paths, and a path is a text in which the
keys that lead to a leaf can no longer be told apart. The proofs about writes
need the keys, so this file reads the same leaves off a document with the keys
kept as a list. A leaf seen this way is a `Twig`.

`flattenAt_eq` says that nothing else changes: the flat view is the list of
twigs with each list of keys put together from the path on, less the one leaf
that a flat view cannot name, an empty mapping at the empty path.

The second half is about documents whose keys can be told apart in a path as
well. In such a `WellKeyed` document every leaf is found by its keys.
-/

namespace Trialbook

/-- A leaf and the keys that lead to it. -/
structure Twig where
  keys : List String
  value : Node
  deriving Repr

namespace Twig

/-- The leaf seen from one mapping further out. -/
def under (key : String) (t : Twig) : Twig := { t with keys := key :: t.keys }

/-- The leaf in a flat view, for a walk that began at the path. -/
def toLeaf (path : String) (t : Twig) : Leaf := ⟨Path.descend path t.keys, t.value⟩

@[simp] theorem under_keys (key : String) (t : Twig) : (t.under key).keys = key :: t.keys := rfl

@[simp] theorem under_value (key : String) (t : Twig) : (t.under key).value = t.value := rfl

end Twig

mutual

/-- The leaves that are reached through untagged mappings, in document order. -/
def Node.leaves : Node → List Twig
  | .mapping es => if es.isEmpty then [⟨[], .mapping es⟩] else Entries.leaves es
  | .null => [⟨[], .null⟩]
  | .bool b => [⟨[], .bool b⟩]
  | .number n => [⟨[], .number n⟩]
  | .text s => [⟨[], .text s⟩]
  | .sequence xs => [⟨[], .sequence xs⟩]
  | .tagged t n => [⟨[], .tagged t n⟩]

/-- The leaves of a mapping's entries. -/
def Entries.leaves : Entries → List Twig
  | [] => []
  | (k, v) :: es => v.leaves.map (Twig.under k.keyText) ++ Entries.leaves es

end

/-- Nodes are mappings of smaller nodes or leaves. -/
@[elab_as_elim]
theorem Node.mappingInduction {motive : Node → Prop}
    (leaf : ∀ n : Node, (∀ es, n ≠ .mapping es) → motive n)
    (mapping : ∀ es : Entries, (∀ e ∈ es, motive e.2) → motive (.mapping es))
    (n : Node) : motive n := by
  match n with
  | .mapping es =>
      exact mapping es fun e he => Node.mappingInduction leaf mapping e.2
  | .null | .bool _ | .number _ | .text _ | .sequence _ | .tagged _ _ =>
      exact leaf _ (by simp)
termination_by sizeOf n
decreasing_by
  have hlt := List.sizeOf_lt_of_mem he
  have hsnd : sizeOf e.2 < sizeOf e := by
    cases e
    simp only [Prod.mk.sizeOf_spec]
    omega
  simp only [Node.mapping.sizeOf_spec]
  omega

/-! ## Reading leaves off -/

namespace Entries

@[simp] theorem leaves_nil : leaves [] = [] := by rw [leaves]

theorem leaves_cons (k v : Node) (es : Entries) :
    leaves ((k, v) :: es) = v.leaves.map (Twig.under k.keyText) ++ leaves es := by
  rw [leaves]

theorem leaves_append (es fs : Entries) : leaves (es ++ fs) = leaves es ++ leaves fs := by
  induction es with
  | nil => simp
  | cons e es ih => rw [List.cons_append, leaves_cons, leaves_cons, ih, List.append_assoc]

theorem leaves_singleton (key : String) (v : Node) :
    leaves [(.text key, v)] = v.leaves.map (Twig.under key) := by
  rw [leaves_cons, leaves_nil, List.append_nil]
  rfl

theorem mem_leaves {t : Twig} {es : Entries} :
    t ∈ leaves es ↔ ∃ e ∈ es, ∃ s ∈ e.2.leaves, t = s.under e.1.keyText := by
  induction es with
  | nil => simp
  | cons e es ih =>
      obtain ⟨k, v⟩ := e
      simp only [leaves_cons, List.mem_append, List.mem_map, ih, List.exists_mem_cons_iff]
      exact or_congr_left (exists_congr fun s => and_congr_right fun _ => eq_comm)

end Entries

namespace Node

theorem leaves_of_not_mapping {n : Node} (h : ∀ es, n ≠ mapping es) :
    n.leaves = [⟨[], n⟩] := by
  cases n with
  | mapping es => exact absurd rfl (h es)
  | null | bool | number | text | sequence | tagged => rw [leaves]

@[simp] theorem leaves_mapping_nil : (mapping []).leaves = [⟨[], mapping []⟩] := by
  rw [leaves]
  rfl

theorem leaves_mapping {es : Entries} (h : es ≠ []) : (mapping es).leaves = es.leaves := by
  rw [leaves, if_neg (by simpa using h)]

theorem leaves_ne_nil (n : Node) : n.leaves ≠ [] := by
  induction n using mappingInduction with
  | leaf n h => simp [leaves_of_not_mapping h]
  | mapping es ih =>
      cases es with
      | nil => simp
      | cons e es =>
          rw [leaves_mapping (List.cons_ne_nil e es), Entries.leaves_cons]
          simp [ih e List.mem_cons_self]

theorem keys_ne_nil_of_mem {t : Twig} {es : Entries} (h : t ∈ es.leaves) : t.keys ≠ [] := by
  obtain ⟨e, _, s, _, rfl⟩ := Entries.mem_leaves.mp h
  simp

/-- Whether the node is a leaf itself: anything but a mapping with entries. -/
def IsLeaf (n : Node) : Prop := n.leaves = [⟨[], n⟩]

theorem IsLeaf.eq_of_mem {n : Node} (h : n.IsLeaf) {t : Twig} (ht : t ∈ n.leaves) :
    t = ⟨[], n⟩ := by
  rw [h] at ht
  exact List.mem_singleton.mp ht

theorem IsLeaf.of_keys_eq_nil {n : Node} {t : Twig} (ht : t ∈ n.leaves) (hkeys : t.keys = []) :
    n.IsLeaf := by
  by_cases hmap : ∃ es, n = mapping es
  · obtain ⟨es, rfl⟩ := hmap
    by_cases hes : es = []
    · subst hes
      exact leaves_mapping_nil
    · rw [leaves_mapping hes] at ht
      exact absurd hkeys (keys_ne_nil_of_mem ht)
  · exact leaves_of_not_mapping fun es hes => hmap ⟨es, hes⟩

theorem IsLeaf.of_mem_leaves {n : Node} : ∀ t ∈ n.leaves, t.value.IsLeaf := by
  induction n using mappingInduction with
  | leaf n h =>
      intro t ht
      have hleaf : n.IsLeaf := leaves_of_not_mapping h
      rw [hleaf.eq_of_mem ht]
      exact hleaf
  | mapping es ih =>
      intro t ht
      by_cases hes : es = []
      · subst hes
        have hleaf : (mapping []).IsLeaf := leaves_mapping_nil
        rw [hleaf.eq_of_mem ht]
        exact hleaf
      · rw [leaves_mapping hes] at ht
        obtain ⟨e, he, s, hs, rfl⟩ := Entries.mem_leaves.mp ht
        exact ih e he s hs

/-! ## The flat view -/

/-- Whether the node is a mapping without entries and tags. -/
def isHollow : Node → Bool
  | mapping es => es.isEmpty
  | _ => false

end Node

/-- Whether a flat view can name the leaf. -/
def Leaf.isNamed (leaf : Leaf) : Bool := !(leaf.path.isEmpty && leaf.value.isHollow)

namespace Node

theorem flattenEntries_eq {path : String} {es : Entries}
    (h : ∀ e ∈ es, ∀ path, e.2.flattenAt path =
      (e.2.leaves.map (Twig.toLeaf path)).filter Leaf.isNamed) :
    flattenEntries path es = (es.leaves.map (Twig.toLeaf path)).filter Leaf.isNamed := by
  induction es with
  | nil => rw [flattenEntries]; simp
  | cons e es ih =>
      obtain ⟨k, v⟩ := e
      have hv := h (k, v) List.mem_cons_self (Path.child path k.keyText)
      have hes := ih fun e he => h e (List.mem_cons_of_mem _ he)
      have hunder : v.leaves.map (Twig.toLeaf path ∘ Twig.under k.keyText) =
          v.leaves.map (Twig.toLeaf (Path.child path k.keyText)) := rfl
      rw [flattenEntries, hv, hes, Entries.leaves_cons, List.map_append, List.map_map, hunder,
        List.filter_append]

/-- A flat view holds the leaves of a document in their order, all but an empty
mapping that no path leads to. -/
theorem flattenAt_eq (path : String) (n : Node) :
    n.flattenAt path = (n.leaves.map (Twig.toLeaf path)).filter Leaf.isNamed := by
  induction n using mappingInduction generalizing path with
  | leaf n h =>
      have hnamed : Leaf.isNamed ⟨path, n⟩ = true := by
        cases n with
        | mapping es => exact absurd rfl (h es)
        | null | bool | number | text | sequence | tagged => simp [Leaf.isNamed, isHollow]
      rw [leaves_of_not_mapping h, List.map_singleton]
      show n.flattenAt path = [⟨path, n⟩].filter Leaf.isNamed
      rw [List.filter_singleton, hnamed]
      cases n with
      | mapping es => exact absurd rfl (h es)
      | null | bool | number | text | sequence | tagged => rw [flattenAt]; rfl
  | mapping es ih =>
      cases es with
      | nil =>
          rw [flattenAt, flattenEntries, leaves_mapping_nil]
          show _ = [⟨path, mapping []⟩].filter Leaf.isNamed
          cases hpath : path.isEmpty <;> simp [Leaf.isNamed, isHollow, hpath]
      | cons e es =>
          rw [flattenAt, if_neg (by simp), leaves_mapping (List.cons_ne_nil e es)]
          exact flattenEntries_eq fun e he path => ih e he path

theorem mem_flattenAt {path : String} {n : Node} {leaf : Leaf} (h : leaf ∈ n.flattenAt path) :
    ∃ t ∈ n.leaves, leaf = t.toLeaf path := by
  rw [flattenAt_eq] at h
  obtain ⟨t, ht, rfl⟩ := List.mem_map.mp (List.mem_of_mem_filter h)
  exact ⟨t, ht, rfl⟩

theorem flattenAt_empty_path (es : Entries) :
    (mapping es).flattenAt "" = flattenEntries "" es := by
  rw [flattenAt, if_neg (by simp)]

theorem mem_flattenAt_empty_path {es : Entries} {leaf : Leaf}
    (h : leaf ∈ (mapping es).flattenAt "") : ∃ t ∈ Entries.leaves es, leaf = t.toLeaf "" := by
  rw [flattenAt_empty_path, flattenEntries_eq fun e _ path => flattenAt_eq path e.2] at h
  obtain ⟨t, ht, rfl⟩ := List.mem_map.mp (List.mem_of_mem_filter h)
  exact ⟨t, ht, rfl⟩

theorem flattenAt_of_ne_empty {path : String} (hpath : path ≠ "") (n : Node) :
    n.flattenAt path = n.leaves.map (Twig.toLeaf path) := by
  rw [flattenAt_eq, List.filter_eq_self]
  intro leaf hleaf
  obtain ⟨t, _, rfl⟩ := List.mem_map.mp hleaf
  have hne := Path.descend_ne_empty hpath t.keys
  simp [Leaf.isNamed, Twig.toLeaf, hne]

end Node

/-! ## Keys that a path keeps apart -/

namespace Entries

/-- Every key is an untagged string that reads as one segment, and no key
stands twice, which a mapping rules out for keys of any shape. -/
structure Named (es : Entries) : Prop where
  dotless : ∀ e ∈ es, ∃ key, e.1 = .text key ∧ Path.Dotless key
  distinct : (es.map Prod.fst).Nodup

namespace Named

theorem nil : Named [] := ⟨by simp, by simp⟩

theorem cons_iff {k v : Node} {es : Entries} :
    Named ((k, v) :: es) ↔
      (∃ key, k = .text key ∧ Path.Dotless key ∧ get? key es = none) ∧ Named es := by
  constructor
  · intro h
    obtain ⟨key, rfl, hkey⟩ := h.dotless (k, v) List.mem_cons_self
    have hdistinct := h.distinct
    rw [List.map_cons, List.nodup_cons] at hdistinct
    refine ⟨⟨key, rfl, hkey, ?_⟩, ⟨fun e he => h.dotless e (List.mem_cons_of_mem _ he),
      hdistinct.2⟩⟩
    rw [get?_eq_none_iff]
    intro e he heq
    exact hdistinct.1 (List.mem_map.mpr ⟨e, he, heq⟩)
  · rintro ⟨⟨key, rfl, hkey, hnone⟩, h⟩
    refine ⟨?_, ?_⟩
    · intro e he
      rcases List.mem_cons.mp he with rfl | he
      · exact ⟨key, rfl, hkey⟩
      · exact h.dotless e he
    · rw [List.map_cons, List.nodup_cons]
      refine ⟨?_, h.distinct⟩
      intro hmem
      obtain ⟨e, he, heq⟩ := List.mem_map.mp hmem
      exact get?_eq_none_iff.mp hnone e he heq

theorem append_new {es : Entries} {key : String} (h : Named es) (hkey : Path.Dotless key)
    (hnone : get? key es = none) (n : Node) : Named (es ++ [(.text key, n)]) := by
  refine ⟨?_, ?_⟩
  · intro e he
    rcases List.mem_append.mp he with he | he
    · exact h.dotless e he
    · exact ⟨key, by rw [List.mem_singleton.mp he], hkey⟩
  · rw [List.map_append, List.nodup_append]
    refine ⟨h.distinct, by simp, ?_⟩
    intro k hk l hl heq
    obtain ⟨e, he, rfl⟩ := List.mem_map.mp hk
    exact get?_eq_none_iff.mp hnone e he (heq.trans (by simpa using hl))

theorem set_old {es : Entries} {key : String} {old : Node} (h : Named es)
    (hold : get? key es = some old) (n : Node) : Named (set key n es) := by
  obtain ⟨before, after, rfl, hnone⟩ := eq_append_of_get? hold
  rw [set_append_cons hnone]
  refine ⟨?_, by simpa using h.distinct⟩
  intro e he
  rcases List.mem_append.mp he with he | he
  · exact h.dotless e (List.mem_append_left _ he)
  · rcases List.mem_cons.mp he with rfl | he
    · exact h.dotless (.text key, old) (by simp)
    · exact h.dotless e (by simp [he])

/-- Being named is a matter of the keys alone. -/
theorem of_keys_eq {es es' : Entries} (h : Named es)
    (hkeys : es'.map Prod.fst = es.map Prod.fst) : Named es' := by
  refine ⟨fun e' he' => ?_, hkeys ▸ h.distinct⟩
  have hmem : e'.1 ∈ es.map Prod.fst := hkeys ▸ List.mem_map_of_mem he'
  obtain ⟨e, he, heq⟩ := List.mem_map.mp hmem
  rw [← heq]
  exact h.dotless e he

/-- A mapping that has one key alone has one entry. -/
theorem exists_singleton {es : Entries} {name : String} (h : Named es) (hes : es ≠ [])
    (hkey : ∀ e ∈ es, e.1 = .text name) : ∃ inner, es = [(.text name, inner)] := by
  cases es with
  | nil => exact absurd rfl hes
  | cons e rest =>
      obtain ⟨k, v⟩ := e
      obtain rfl : k = .text name := hkey _ List.mem_cons_self
      cases rest with
      | nil => exact ⟨v, rfl⟩
      | cons e' rest =>
          have hdistinct := h.distinct
          have hsame := hkey e' (by simp)
          simp [hsame] at hdistinct

theorem get?_of_mem {es : Entries} {key : String} {n : Node} (h : Named es)
    (hmem : (.text key, n) ∈ es) : get? key es = some n := by
  induction es with
  | nil => simp at hmem
  | cons e es ih =>
      obtain ⟨k, v⟩ := e
      obtain ⟨⟨name, rfl, _, hnone⟩, hes⟩ := cons_iff.mp h
      rcases List.mem_cons.mp hmem with heq | hmem
      · obtain ⟨hkey, rfl⟩ := Prod.mk.inj heq
        rw [get?, if_pos (by rw [← hkey]; simp)]
      · have hne : name ≠ key := by
          rintro rfl
          exact get?_eq_none_iff.mp hnone _ hmem rfl
        rw [get?, if_neg (by simpa using hne), ih hes hmem]

end Named

end Entries

/-- A document whose keys, at every mapping that is reached through untagged
mappings, are untagged strings that read as one segment each. -/
inductive Node.WellKeyed : Node → Prop
  | leaf {n : Node} (h : ∀ es, n ≠ .mapping es) : Node.WellKeyed n
  | mapping {es : Entries} (named : es.Named) (values : ∀ e ∈ es, Node.WellKeyed e.2) :
      Node.WellKeyed (.mapping es)

theorem Node.IsLeaf.wellKeyed {n : Node} (h : n.IsLeaf) : n.WellKeyed := by
  by_cases hmap : ∃ es, n = mapping es
  · obtain ⟨es, rfl⟩ := hmap
    by_cases hes : es = []
    · subst hes
      exact .mapping .nil (by simp)
    · have hmem : (⟨[], mapping es⟩ : Twig) ∈ Entries.leaves es := by
        rw [← leaves_mapping hes, h]
        exact List.mem_cons_self
      exact absurd rfl (keys_ne_nil_of_mem hmem)
  · exact .leaf fun es hes => hmap ⟨es, hes⟩

namespace Node.WellKeyed

theorem named {es : Entries} (h : (Node.mapping es).WellKeyed) : es.Named := by
  cases h with
  | leaf h => exact absurd rfl (h es)
  | mapping named _ => exact named

theorem value {es : Entries} (h : (Node.mapping es).WellKeyed) {e : Node × Node} (he : e ∈ es) :
    e.2.WellKeyed := by
  cases h with
  | leaf h => exact absurd rfl (h es)
  | mapping _ values => exact values e he

theorem cons_iff {k v : Node} {es : Entries} :
    (Node.mapping ((k, v) :: es)).WellKeyed ↔
      (∃ key, k = text key ∧ Path.Dotless key ∧ Entries.get? key es = none) ∧
        v.WellKeyed ∧ (Node.mapping es).WellKeyed := by
  constructor
  · intro h
    obtain ⟨hkey, hes⟩ := Entries.Named.cons_iff.mp h.named
    exact ⟨hkey, h.value List.mem_cons_self,
      .mapping hes fun e he => h.value (List.mem_cons_of_mem _ he)⟩
  · rintro ⟨hkey, hv, hes⟩
    refine .mapping (Entries.Named.cons_iff.mpr ⟨hkey, hes.named⟩) fun e he => ?_
    rcases List.mem_cons.mp he with rfl | he
    · exact hv
    · exact hes.value he

theorem dotless_of_mem_leaves {n : Node} (h : n.WellKeyed) :
    ∀ t ∈ n.leaves, ∀ key ∈ t.keys, Path.Dotless key := by
  induction h with
  | leaf h => simp [leaves_of_not_mapping h]
  | @mapping es named values ih =>
      intro t ht key hkey
      cases es with
      | nil => simp_all
      | cons e es =>
          rw [leaves_mapping (List.cons_ne_nil e es)] at ht
          obtain ⟨e', he, s, hs, rfl⟩ := Entries.mem_leaves.mp ht
          obtain ⟨name, hname, hdot⟩ := named.dotless e' he
          rw [Twig.under_keys, hname] at hkey
          rcases List.mem_cons.mp hkey with rfl | hkey
          · exact hdot
          · exact ih e' he s hs key hkey

theorem at?_of_mem_leaves {n : Node} (h : n.WellKeyed) :
    ∀ t ∈ n.leaves, n.at? t.keys = some t.value := by
  induction h with
  | leaf h => simp [leaves_of_not_mapping h]
  | @mapping es named values ih =>
      intro t ht
      cases es with
      | nil => simp_all
      | cons e es =>
          rw [leaves_mapping (List.cons_ne_nil e es)] at ht
          obtain ⟨e', he, s, hs, rfl⟩ := Entries.mem_leaves.mp ht
          obtain ⟨name, hname, _⟩ := named.dotless e' he
          have hget : Entries.get? name (e :: es) = some e'.2 :=
            named.get?_of_mem (by rw [← hname]; exact he)
          rw [hname]
          exact (at?_of_get? hget s.keys).trans (ih e' he s hs)

end Node.WellKeyed

end Trialbook

import Trialbook.Proofs.Leaves
import Trialbook.Proofs.Walk

/-!
# All that a write can do

A write into a document that it can walk does one of five things, four of them
at the node where its walk ends and one on the way there. `WriteStep` is that
list. Every property that writes preserve is an induction over it, and none of
those proofs has to look at the walk again.

A document can be walked unless one of its leaves is a null or a mapping under
a tag. The first would end the walk without an outcome, the second without a
trace.
-/

namespace Trialbook

open Node

/-- What a write of `value` at the keys below a node makes of the node. -/
inductive WriteStep (value : Node) (append : Bool) : List String → Node → Written → Prop
  /-- A null or a leaf gives way to the mappings on the way to the value. -/
  | replaced {keys : List String} {n : Node} (hkeys : keys ≠ []) (hmap : n.isMapping = false)
      (hnull : n.isTagged = true → n.isNull = false) :
      WriteStep value append keys n
        ⟨chain keys (value.fresh append), if n.isNull then none else some ⟨[], .leafReplaced⟩⟩
  /-- A new key is added at the end. -/
  | added {key : String} {es : Entries} (hget : Entries.get? key es = none)
      (rest : List String) :
      WriteStep value append (key :: rest) (mapping es)
        ⟨mapping (es ++ [(text key, chain rest (value.fresh append))]), none⟩
  /-- The value joins what is not a mapping. -/
  | joined {key : String} {es : Entries} {present : Node} (happend : append = true)
      (hget : Entries.get? key es = some present) (hmap : present.isMapping = false) :
      WriteStep value append [key] (mapping es)
        ⟨mapping (Entries.set key (present.appended value) es), none⟩
  /-- The value takes the place of what is there. -/
  | displaced {key : String} {es : Entries} {present : Node}
      (hget : Entries.get? key es = some present)
      (hover : append = true → present.isMapping = true) :
      WriteStep value append [key] (mapping es)
        ⟨mapping (Entries.set key (value.fresh append) es),
          some ⟨[key], if present.isMapping then .subtreeReplaced else .overwritten⟩⟩
  /-- The write happens further down. -/
  | inside {key : String} {rest : List String} {es : Entries} {inner : Node} {w : Written}
      (hget : Entries.get? key es = some inner) (hrest : rest ≠ [])
      (hinner : WriteStep value append rest inner w) :
      WriteStep value append (key :: rest) (mapping es)
        ⟨mapping (Entries.set key w.node es), w.clash.map (Clash.under key)⟩

/-- Whether a write can go through every node of the document: no leaf is a
null or a mapping under a tag. -/
def Node.Walkable (n : Node) : Prop :=
  ∀ t ∈ n.leaves, t.value.isTagged = true → t.value.isMapping = false ∧ t.value.isNull = false

namespace Entries

theorem mem_leaves_mapping {t : Twig} {es : Entries} (h : t ∈ leaves es) :
    t ∈ (mapping es).leaves := by
  rw [leaves_mapping]
  · exact h
  · rintro rfl
    simp at h

theorem mem_leaves_of_get? {key : String} {inner : Node} {es : Entries}
    (h : get? key es = some inner) {t : Twig} (ht : t ∈ inner.leaves) :
    t.under key ∈ leaves es :=
  mem_leaves.mpr ⟨_, mem_of_get? h, t, ht, rfl⟩

theorem ne_nil_of_get? {key : String} {n : Node} {es : Entries} (h : get? key es = some n) :
    es ≠ [] :=
  List.ne_nil_of_mem (mem_of_get? h)

/-- The leaves around those of an entry that is there stay where they are. -/
theorem exists_leaves_set {key : String} {old : Node} {es : Entries}
    (hold : get? key es = some old) :
    ∃ before after, leaves es = before ++ old.leaves.map (Twig.under key) ++ after ∧
      ∀ n, leaves (set key n es) = before ++ n.leaves.map (Twig.under key) ++ after := by
  obtain ⟨before, after, rfl, hnone⟩ := eq_append_of_get? hold
  have hleaves : ∀ n, leaves (before ++ (text key, n) :: after) =
      leaves before ++ n.leaves.map (Twig.under key) ++ leaves after := by
    intro n
    rw [leaves_append, leaves_cons, List.append_assoc]
    rfl
  refine ⟨leaves before, leaves after, hleaves old, fun n => ?_⟩
  rw [set_append_cons hnone, hleaves]

theorem mem_leaves_set {key : String} {old n : Node} {es : Entries}
    (hold : get? key es = some old) {t : Twig} (h : t ∈ leaves (set key n es)) :
    t ∈ leaves es ∨ ∃ s ∈ n.leaves, t = s.under key := by
  obtain ⟨before, after, hes, hset⟩ := exists_leaves_set hold
  rw [hset] at h
  rw [hes]
  simp only [List.mem_append, List.mem_map] at h ⊢
  rcases h with (h | ⟨s, hs, rfl⟩) | h
  · exact Or.inl (Or.inl (Or.inl h))
  · exact Or.inr ⟨s, hs, rfl⟩
  · exact Or.inl (Or.inr h)

end Entries

namespace Node

theorem IsLeaf.fresh {n : Node} (h : n.IsLeaf) (append : Bool) : (n.fresh append).IsLeaf := by
  cases append with
  | false => exact h
  | true => exact leaves_of_not_mapping (by simp [fresh_true])

theorem walkable_empty : (mapping []).Walkable := by
  intro t ht
  rw [leaves_mapping_nil, List.mem_singleton] at ht
  simp [ht, isTagged]

theorem Walkable.get? {key : String} {inner : Node} {es : Entries}
    (h : (mapping es).Walkable) (hget : Entries.get? key es = some inner) :
    inner.Walkable := fun t ht =>
  h (t.under key) (Entries.mem_leaves_mapping (Entries.mem_leaves_of_get? hget ht))

theorem Walkable.of_not_plain {n : Node} (h : n.Walkable) (hplain : ∀ es, n ≠ mapping es) :
    n.isMapping = false ∧ (n.isTagged = true → n.isNull = false) := by
  have hself := h ⟨[], n⟩ (by simp [leaves_of_not_mapping hplain])
  refine ⟨?_, fun htag => (hself htag).2⟩
  cases htag : n.isTagged with
  | true => exact (hself htag).1
  | false =>
      by_contra hmap
      obtain ⟨es, rfl⟩ := eq_mapping_of_isMapping (by simpa using hmap) htag
      exact hplain es rfl

theorem writeAt_of_untraced {value : Node} {append : Bool} {keys : List String} {n : Node}
    (hkeys : keys ≠ []) (hmap : n.isMapping = false)
    (hnull : n.isTagged = true → n.isNull = false) :
    writeAt value append keys n =
      some ⟨chain keys (value.fresh append),
        if n.isNull then none else some ⟨[], .leafReplaced⟩⟩ := by
  cases htag : n.isTagged with
  | false => exact writeAt_of_not_mapping hmap htag hkeys
  | true => rw [writeAt_leaf hmap (hnull htag) hkeys, hnull htag]; rfl

/-- A document that can be walked takes every write. -/
theorem exists_writeStep (value : Node) (append : Bool) {keys : List String} {n : Node}
    (hkeys : keys ≠ []) (h : n.Walkable) :
    ∃ w, writeAt value append keys n = some w ∧ WriteStep value append keys n w := by
  induction keys generalizing n with
  | nil => exact absurd rfl hkeys
  | cons key rest ih =>
      by_cases hplain : ∃ es, n = mapping es
      · obtain ⟨es, rfl⟩ := hplain
        cases hget : Entries.get? key es with
        | none => exact ⟨_, writeAt_mapping_new hget rest, .added hget rest⟩
        | some inner =>
            by_cases hrest : rest = []
            · subst hrest
              rw [writeAt_singleton, writeLast_mapping]
              by_cases hjoin : append = true ∧ inner.isMapping = false
              · obtain ⟨rfl, hmap⟩ := hjoin
                rw [Entries.place_joined hget hmap]
                exact ⟨_, rfl, .joined rfl hget hmap⟩
              · have hover : append = true → inner.isMapping = true := by
                  intro happend
                  by_contra hmap
                  exact hjoin ⟨happend, by simpa using hmap⟩
                rw [Entries.place_over hget hover]
                exact ⟨_, rfl, .displaced hget hover⟩
            · obtain ⟨w, hw, hstep⟩ := ih hrest (h.get? hget)
              refine ⟨_, ?_, .inside hget hrest hstep⟩
              rw [writeAt_mapping_old hget hrest, hw]
              rfl
      · obtain ⟨hmap, hnull⟩ := h.of_not_plain fun es hes => hplain ⟨es, hes⟩
        exact ⟨_, writeAt_of_untraced hkeys hmap hnull, .replaced hkeys hmap hnull⟩

end Node

/-! ## Where the leaves come from -/

/-- The leaf seen from further out. -/
def Twig.beneath (keys : List String) (t : Twig) : Twig := { t with keys := keys ++ t.keys }

theorem Twig.beneath_cons (key : String) (keys : List String) :
    Twig.beneath (key :: keys) = Twig.under key ∘ Twig.beneath keys := rfl

theorem Node.leaves_chain (keys : List String) (value : Node) :
    (chain keys value).leaves = value.leaves.map (Twig.beneath keys) := by
  induction keys with
  | nil => exact (List.map_id _).symm
  | cons key rest ih =>
      rw [chain_cons, leaves_mapping (by simp), Entries.leaves_singleton, ih, List.map_map]
      rfl

namespace WriteStep

variable {value : Node} {append : Bool} {keys : List String} {n : Node} {w : Written}

theorem node_eq_mapping {es : Entries} (h : WriteStep value append keys (mapping es) w) :
    ∃ fs, w.node = mapping fs := by
  cases h with
  | replaced _ hmap => simp [isMapping] at hmap
  | added | joined | displaced | inside => exact ⟨_, rfl⟩

/-- A leaf after a write was there before, belongs to the value, or is the
sequence that the value has joined. -/
theorem mem_leaves (h : WriteStep value append keys n w) {t : Twig} (ht : t ∈ w.node.leaves) :
    t ∈ n.leaves ∨ (∃ s ∈ (value.fresh append).leaves, t = s.beneath keys) ∨
      append = true ∧ ∃ old, ⟨keys, old⟩ ∈ n.leaves ∧ t = ⟨keys, old.appended value⟩ := by
  induction h generalizing t with
  | replaced hkeys hmap hnull =>
      rw [leaves_chain] at ht
      obtain ⟨s, hs, rfl⟩ := List.mem_map.mp ht
      exact Or.inr (Or.inl ⟨s, hs, rfl⟩)
  | @added key es hget rest =>
      rw [leaves_mapping (by simp), Entries.leaves_append, Entries.leaves_singleton,
        leaves_chain, List.map_map, ← Twig.beneath_cons] at ht
      rcases List.mem_append.mp ht with ht | ht
      · exact Or.inl (Entries.mem_leaves_mapping ht)
      · obtain ⟨s, hs, rfl⟩ := List.mem_map.mp ht
        exact Or.inr (Or.inl ⟨s, hs, rfl⟩)
  | @joined key es present happend hget hmap =>
      rw [leaves_mapping (Entries.set_ne_nil _ _ _)] at ht
      have hpresent : present.leaves = [⟨[], present⟩] :=
        leaves_of_not_mapping (ne_mapping hmap)
      rcases Entries.mem_leaves_set hget ht with ht | ⟨s, hs, rfl⟩
      · exact Or.inl (Entries.mem_leaves_mapping ht)
      · rw [appended, leaves_of_not_mapping (by simp), List.mem_singleton] at hs
        subst hs
        have hold := Entries.mem_leaves_of_get? hget (t := ⟨[], present⟩) (by simp [hpresent])
        exact Or.inr (Or.inr ⟨happend, present, Entries.mem_leaves_mapping hold, rfl⟩)
  | @displaced key es present hget hover =>
      rw [leaves_mapping (Entries.set_ne_nil _ _ _)] at ht
      rcases Entries.mem_leaves_set hget ht with ht | ⟨s, hs, rfl⟩
      · exact Or.inl (Entries.mem_leaves_mapping ht)
      · exact Or.inr (Or.inl ⟨s, hs, rfl⟩)
  | @inside key rest es inner w hget hrest hinner ih =>
      rw [leaves_mapping (Entries.set_ne_nil _ _ _)] at ht
      rcases Entries.mem_leaves_set hget ht with ht | ⟨s, hs, rfl⟩
      · exact Or.inl (Entries.mem_leaves_mapping ht)
      · rcases ih hs with hs | ⟨u, hu, rfl⟩ | ⟨happend, old, hold, rfl⟩
        · exact Or.inl (Entries.mem_leaves_mapping (Entries.mem_leaves_of_get? hget hs))
        · exact Or.inr (Or.inl ⟨u, hu, rfl⟩)
        · have hunder := Entries.mem_leaves_mapping (Entries.mem_leaves_of_get? hget hold)
          exact Or.inr (Or.inr ⟨happend, old, hunder, rfl⟩)

end WriteStep

end Trialbook

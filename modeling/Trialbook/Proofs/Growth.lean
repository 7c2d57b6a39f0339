import Trialbook.Document.Rebuild
import Trialbook.Proofs.Conflict

/-!
# What a document keeps through every write

`WriteStep` lists what a write does in a document that it can walk. Documents
with tags in the way are outside of it, but for the shape of the result they
add one case only: a tagged mapping that a walk ends at or goes through stays
what it is in a flat view, one leaf under one tag.

`Growth` is the list with that case, and without the collisions. Two things are
read off it. The keys of a document go on being untagged strings without dots,
and every leaf stands where a leaf stood before or where the write went.
-/

namespace Trialbook

open Node

/-- What a write of `value` at the keys below a node can make of the node,
tagged or not. -/
inductive Growth (value : Node) (append : Bool) : List String → Node → Node → Prop
  /-- A tagged mapping stays under its tag. -/
  | tagged {keys : List String} {n m : Node} (hn : n.isTagged = true) (hm : m.isTagged = true) :
      Growth value append keys n m
  /-- What is no mapping gives way to the mappings on the way to the value. -/
  | replaced {keys : List String} {n : Node} (hplain : ∀ es, n ≠ mapping es) :
      Growth value append keys n (chain keys (value.fresh append))
  /-- A new key is added at the end. -/
  | added {key : String} {es : Entries} (hget : Entries.get? key es = none)
      (rest : List String) :
      Growth value append (key :: rest) (mapping es)
        (mapping (es ++ [(text key, chain rest (value.fresh append))]))
  /-- The value takes the place of what is there, or joins it. -/
  | placed {key : String} {es : Entries} {present n : Node}
      (hget : Entries.get? key es = some present)
      (hn : n = value.fresh append ∨ n = present.appended value) :
      Growth value append [key] (mapping es) (mapping (Entries.set key n es))
  /-- The write happens further down. -/
  | inside {key : String} {rest : List String} {es : Entries} {inner n : Node}
      (hget : Entries.get? key es = some inner) (hinner : Growth value append rest inner n) :
      Growth value append (key :: rest) (mapping es) (mapping (Entries.set key n es))

namespace Entries

theorem exists_place_eq_set {key : String} {present : Node} {es : Entries}
    (h : get? key es = some present) (value : Node) (append : Bool) :
    ∃ n, (place key value append es).1 = set key n es ∧
      (n = value.fresh append ∨ n = present.appended value) := by
  by_cases hjoin : append = true ∧ present.isMapping = false
  · obtain ⟨rfl, hmap⟩ := hjoin
    rw [place_joined h hmap]
    exact ⟨_, rfl, Or.inr rfl⟩
  · have hover : append = true → present.isMapping = true := by
      intro happend
      by_contra hmap
      exact hjoin ⟨happend, by simpa using hmap⟩
    rw [place_over h hover]
    exact ⟨_, rfl, Or.inl rfl⟩

end Entries

namespace Node

theorem isTagged_retag {shell : Node} (h : shell.isTagged = true) (n : Node) :
    (shell.retag n).isTagged = true := by
  cases shell with
  | tagged t inner => rw [retag]; rfl
  | null | bool | number | text | sequence | mapping => simp [isTagged] at h

theorem ne_mapping_of_isTagged {n : Node} (h : n.isTagged = true) (es : Entries) :
    n ≠ mapping es := by
  rintro rfl
  simp [isTagged] at h

/-- Where there is no mapping, a write that comes to an end leaves the chain. -/
theorem eq_of_writeAt_of_not_mapping {value : Node} {append : Bool} {keys : List String}
    {n : Node} {w : Written} (hkeys : keys ≠ []) (hmap : n.isMapping = false)
    (h : writeAt value append keys n = some w) :
    w = ⟨chain keys (value.fresh append),
      if n.isNull then none else some ⟨[], .leafReplaced⟩⟩ := by
  by_cases hblocked : n.isTagged = true ∧ n.isNull = true
  · obtain ⟨key, rest, rfl⟩ := List.exists_cons_of_ne_nil hkeys
    by_cases hrest : rest = []
    · subst hrest
      rw [writeAt_singleton, writeLast_of_not_mapping hmap, Option.some.injEq] at h
      exact h.symm
    · rw [writeAt_taggedNull hblocked.2 hblocked.1 hrest] at h
      simp at h
  · have hnull : n.isTagged = true → n.isNull = false := by
      intro htag
      by_contra hnull
      exact hblocked ⟨htag, by simpa using hnull⟩
    rw [writeAt_of_untraced hkeys hmap hnull, Option.some.injEq] at h
    exact h.symm

theorem growth_of_writeAt {value : Node} {append : Bool} {keys : List String} {n : Node}
    {w : Written} (hkeys : keys ≠ []) (h : writeAt value append keys n = some w) :
    Growth value append keys n w.node := by
  induction keys generalizing n w with
  | nil => exact absurd rfl hkeys
  | cons key rest ih =>
      cases hmap : n.isMapping with
      | false =>
          rw [eq_of_writeAt_of_not_mapping hkeys hmap h]
          exact .replaced (ne_mapping hmap)
      | true =>
          obtain ⟨es, hes⟩ := isMapping_iff.mp hmap
          cases htag : n.isTagged with
          | true =>
              refine .tagged htag ?_
              by_cases hrest : rest = []
              · subst hrest
                rw [writeAt_singleton, writeLast_tagged htag hmap, Option.some.injEq] at h
                rw [← h]
                exact htag
              · rw [writeAt_of_mapping hes hrest, Option.map_eq_some_iff] at h
                obtain ⟨inner, _, rfl⟩ := h
                exact isTagged_retag htag _
          | false =>
              have hn : n = mapping es := by rw [← hes, untag_of_not_tagged htag]
              subst hn
              cases hget : Entries.get? key es with
              | none =>
                  rw [writeAt_mapping_new hget, Option.some.injEq] at h
                  rw [← h]
                  exact .added hget rest
              | some present =>
                  by_cases hrest : rest = []
                  · subst hrest
                    obtain ⟨placed, hplaced, hvalue⟩ :=
                      Entries.exists_place_eq_set hget value append
                    rw [writeAt_singleton, writeLast_mapping, Option.some.injEq] at h
                    rw [← h, hplaced]
                    exact .placed hget hvalue
                  · rw [writeAt_mapping_old hget hrest, Option.map_eq_some_iff] at h
                    obtain ⟨inner, hinner, rfl⟩ := h
                    exact .inside hget (ih hrest hinner)

theorem WellKeyed.fresh {value : Node} (h : value.WellKeyed) (append : Bool) :
    (value.fresh append).WellKeyed := by
  cases append with
  | false => exact h
  | true => exact .leaf (by simp [fresh_true])

end Node

namespace Growth

variable {value : Node} {append : Bool} {keys : List String} {n m : Node}

theorem exists_entries {es : Entries} (h : Growth value append keys (mapping es) m) :
    ∃ fs, m = mapping fs := by
  cases h with
  | tagged hn _ => simp [isTagged] at hn
  | replaced hplain => exact absurd rfl (hplain es)
  | added | placed | inside => exact ⟨_, rfl⟩

theorem wellKeyed (h : Growth value append keys n m) (hn : n.WellKeyed)
    (hvalue : value.WellKeyed) (hkeys : ∀ key ∈ keys, Path.Dotless key) : m.WellKeyed := by
  induction h with
  | tagged _ hm => exact .leaf (ne_mapping_of_isTagged hm)
  | replaced hplain => exact (hvalue.fresh append).chain hkeys
  | @added key es hget rest =>
      have hrest : ∀ k ∈ rest, Path.Dotless k := fun k hk => hkeys k (List.mem_cons_of_mem _ hk)
      exact hn.append_new (hkeys key List.mem_cons_self) hget ((hvalue.fresh append).chain hrest)
  | placed hget hplaced =>
      refine hn.set_old hget ?_
      rcases hplaced with rfl | rfl
      · exact hvalue.fresh append
      · exact .leaf (by simp [appended])
  | inside hget _ ih =>
      exact hn.set_old hget (ih (hn.value (Entries.mem_of_get? hget)) fun k hk =>
        hkeys k (List.mem_cons_of_mem _ hk))

/-- A leaf after a write was there before, holds the value, or is under a tag where a
leaf stood before. -/
theorem mem_leaves (h : Growth value append keys n m) (hvalue : value.IsLeaf) {t : Twig}
    (ht : t ∈ m.leaves) :
    t ∈ n.leaves ∨ t.keys = keys ∧ (t.value = value.fresh append ∨
      ∃ old : Node, t.value = old.appended value) ∨
      t.value.isTagged = true ∧ ∃ s ∈ n.leaves, s.keys = t.keys := by
  have hfresh := hvalue.fresh append
  induction h generalizing t with
  | @tagged keys n m hn hm =>
      rw [leaves_of_not_mapping (ne_mapping_of_isTagged hm), List.mem_singleton] at ht
      subst ht
      refine Or.inr (Or.inr ⟨hm, ⟨[], n⟩, ?_, rfl⟩)
      rw [leaves_of_not_mapping (ne_mapping_of_isTagged hn)]
      exact List.mem_cons_self
  | @replaced keys n hplain =>
      rw [leaves_chain, hfresh, List.map_singleton, List.mem_singleton] at ht
      subst ht
      exact Or.inr (Or.inl ⟨List.append_nil keys, Or.inl rfl⟩)
  | @added key es hget rest =>
      rw [leaves_mapping (by simp), Entries.leaves_append, Entries.leaves_singleton,
        leaves_chain, hfresh] at ht
      rcases List.mem_append.mp ht with ht | ht
      · exact Or.inl (Entries.mem_leaves_mapping ht)
      · rw [List.map_singleton, List.map_singleton, List.mem_singleton] at ht
        subst ht
        exact Or.inr (Or.inl ⟨congrArg (key :: ·) (List.append_nil rest), Or.inl rfl⟩)
  | @placed key es present placed hget hplaced =>
      have hleaf : placed.IsLeaf := by
        rcases hplaced with rfl | rfl
        · exact hfresh
        · exact leaves_of_not_mapping (by simp [appended])
      rw [leaves_mapping (Entries.set_ne_nil _ _ _)] at ht
      rcases Entries.mem_leaves_set hget ht with ht | ⟨s, hs, rfl⟩
      · exact Or.inl (Entries.mem_leaves_mapping ht)
      · rw [hleaf.eq_of_mem hs]
        exact Or.inr (Or.inl ⟨rfl, hplaced.imp_right fun hjoined => ⟨present, hjoined⟩⟩)
  | @inside key rest es inner grown hget hinner ih =>
      have hunder : ∀ s ∈ inner.leaves, s.under key ∈ (mapping es).leaves := fun s hs =>
        Entries.mem_leaves_mapping (Entries.mem_leaves_of_get? hget hs)
      rw [leaves_mapping (Entries.set_ne_nil _ _ _)] at ht
      rcases Entries.mem_leaves_set hget ht with ht | ⟨s, hs, rfl⟩
      · exact Or.inl (Entries.mem_leaves_mapping ht)
      · rcases ih hs with hs | ⟨hkeys, hs⟩ | ⟨htag, u, hu, hsame⟩
        · exact Or.inl (hunder s hs)
        · exact Or.inr (Or.inl ⟨congrArg (key :: ·) hkeys, hs⟩)
        · exact Or.inr (Or.inr ⟨htag, u.under key, hunder u hu, congrArg (key :: ·) hsame⟩)

/-- A leaf after a write stands where one stood before, or where the write
went. -/
theorem keys_of_mem_leaves (h : Growth value append keys n m) (hvalue : value.IsLeaf) :
    ∀ t ∈ m.leaves, (∃ s ∈ n.leaves, s.keys = t.keys) ∨ t.keys = keys := by
  intro t ht
  rcases h.mem_leaves hvalue ht with hold | ⟨hkeys, -⟩ | ⟨-, hplace⟩
  · exact Or.inl ⟨t, hold, rfl⟩
  · exact Or.inr hkeys
  · exact Or.inl hplace

/-- An empty mapping after a write was there before, or it is the value. -/
theorem hollow_of_mem_leaves (h : Growth value append keys n m) (hvalue : value.IsLeaf)
    {t : Twig} (ht : t ∈ m.leaves) (hhollow : t.value = mapping []) :
    t ∈ n.leaves ∨ t.keys = keys ∧ append = false ∧ value = mapping [] := by
  rcases h.mem_leaves hvalue ht with hold | ⟨hkeys, hfresh | ⟨old, hjoined⟩⟩ | ⟨htag, -⟩
  · exact Or.inl hold
  · rw [hhollow] at hfresh
    cases append with
    | false => exact Or.inr ⟨hkeys, rfl, hfresh.symm⟩
    | true => simp [fresh_true] at hfresh
  · rw [hhollow, appended] at hjoined
    simp at hjoined
  · exact absurd hhollow (ne_mapping_of_isTagged htag [])

end Growth

end Trialbook

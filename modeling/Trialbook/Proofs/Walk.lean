import Trialbook.Proofs.Lookup

/-!
# The walk of a write, step by step

`Node.writeAt` decides at every node what a write does there, and the cases
differ by what the node is, whether it is tagged, and whether a key or more is
left of the path. This file settles each of them once, as an equation, so that
the proofs about writes are inductions on the keys with these as their cases.

Off the mappings the walk has a closed form. Below a null, a missing key or a
leaf there is nothing to look at any more, and what the write leaves is a
`chain` of mappings with one entry each down to the value.
-/

namespace Trialbook

namespace Node

/-- The mappings of one entry each that lead to a value along the given keys. -/
def chain : List String → Node → Node
  | [], value => value
  | key :: rest, value => mapping [(text key, chain rest value)]

theorem chain_cons (key : String) (rest : List String) (value : Node) :
    chain (key :: rest) value = mapping [(text key, chain rest value)] := rfl

theorem at?_chain (keys : List String) (value : Node) :
    (chain keys value).at? keys = some value := by
  induction keys with
  | nil => rfl
  | cons key rest ih => simpa [chain_cons, at?_cons, Entries.get?] using ih

end Node

/-! ## The last key

Here, and only here, an append differs from an assignment, and a tag hides the
mapping under it. -/

namespace Entries

theorem place_of_get?_none {key : String} {es : Entries} (h : get? key es = none)
    (value : Node) (append : Bool) :
    place key value append es = (es ++ [(.text key, value.fresh append)], none) := by
  rw [place, h, ← set_of_get?_none h]

theorem place_joined {key : String} {present : Node} {es : Entries}
    (h : get? key es = some present) (hmap : present.isMapping = false) (value : Node) :
    place key value true es = (set key (present.appended value) es, none) := by
  simp [place, h, hmap]

theorem place_over {key : String} {present : Node} {es : Entries}
    (h : get? key es = some present) {append : Bool}
    (hover : append = true → present.isMapping = true) (value : Node) :
    place key value append es =
      (set key (value.fresh append) es,
        some ⟨[key], if present.isMapping then .subtreeReplaced else .overwritten⟩) := by
  rw [place, h]
  cases append with
  | false => simp
  | true => simp [hover rfl]

end Entries

namespace Node

variable {value : Node} {append : Bool}

theorem fresh_true (value : Node) : value.fresh true = sequence value.splice := rfl

theorem writeLast_mapping (es : Entries) (key : String) (value : Node) (append : Bool) :
    (mapping es).writeLast key value append =
      ⟨mapping (es.place key value append).1, (es.place key value append).2⟩ := rfl

theorem writeLast_tagged {n : Node} (htag : n.isTagged = true) (hmap : n.isMapping = true)
    (key : String) : n.writeLast key value append = ⟨n, none⟩ := by
  cases n with
  | tagged t inner => rw [writeLast, if_pos hmap]; simp
  | null | bool | number | text | sequence | mapping => simp [isTagged] at htag

theorem writeLast_of_not_mapping {n : Node} (h : n.isMapping = false) (key : String) :
    n.writeLast key value append =
      ⟨chain [key] (value.fresh append),
        if n.isNull then none else some ⟨[], .leafReplaced⟩⟩ := by
  have hfresh : Entries.place key value append [] = ([(text key, value.fresh append)], none) :=
    Entries.place_of_get?_none rfl value append
  cases n with
  | mapping es => simp [isMapping] at h
  | null | bool | number | text | sequence | tagged =>
      rw [writeLast]
      · rw [if_neg (by simp [h]), hfresh]
        rfl
      · simp

/-! ## The keys before it -/

theorem writeAt_singleton (n : Node) (key : String) :
    writeAt value append [key] n = some (n.writeLast key value append) := by
  rw [writeAt]

/-- A mapping is walked through, tagged or not. -/
theorem writeAt_of_mapping {n : Node} {es : Entries} (h : n.untag = mapping es)
    {rest : List String} (hrest : rest ≠ []) (key : String) :
    writeAt value append (key :: rest) n =
      (writeAt value append rest ((Entries.get? key es).getD null)).map fun inner =>
        ⟨n.retag (mapping (Entries.set key inner.node es)),
          inner.clash.map (Clash.under key)⟩ := by
  cases rest with
  | nil => exact absurd rfl hrest
  | cons next others =>
      simp only [writeAt, h]
      cases writeAt value append (next :: others) ((Entries.get? key es).getD null) <;> rfl

theorem writeAt_null (value : Node) (append : Bool) {keys : List String} (h : keys ≠ []) :
    writeAt value append keys null = some ⟨chain keys (value.fresh append), none⟩ := by
  induction keys with
  | nil => exact absurd rfl h
  | cons key rest ih =>
      cases rest with
      | nil => rw [writeAt_singleton, writeLast_of_not_mapping rfl]; rfl
      | cons next others =>
          have hinner := ih (List.cons_ne_nil next others)
          simp only [writeAt, untag_null, Entries.get?, Option.getD_none] at hinner ⊢
          rw [hinner]
          rfl

theorem writeAt_taggedNull {n : Node} (hnull : n.isNull = true) (htag : n.isTagged = true)
    {rest : List String} (hrest : rest ≠ []) (key : String) :
    writeAt value append (key :: rest) n = none := by
  cases rest with
  | nil => exact absurd rfl hrest
  | cons next others =>
      simp only [writeAt, isNull_iff.mp hnull]
      rw [if_pos htag]

theorem writeAt_leaf {n : Node} (hmap : n.isMapping = false) (hnull : n.isNull = false)
    {keys : List String} (h : keys ≠ []) :
    writeAt value append keys n =
      some ⟨chain keys (value.fresh append), some ⟨[], .leafReplaced⟩⟩ := by
  match keys with
  | [] => exact absurd rfl h
  | [key] =>
      rw [writeAt_singleton, writeLast_of_not_mapping hmap, hnull]
      rfl
  | key :: next :: others =>
      have hbelow := writeAt_null value append (List.cons_ne_nil next others)
      rw [writeAt]
      split
      · next es hes => rw [isMapping_iff.mpr ⟨es, hes⟩] at hmap; simp at hmap
      · next hn => rw [isNull_iff.mpr hn] at hnull; simp at hnull
      · simp only [Entries.get?, Option.getD_none, hbelow]
        rfl
      · exact List.cons_ne_nil next others

/-- A null or a leaf, as long as the walk does not have to go through a tag,
gives way to the chain. -/
theorem writeAt_of_not_mapping {n : Node} (hmap : n.isMapping = false)
    (htag : n.isTagged = false) {keys : List String} (h : keys ≠ []) :
    writeAt value append keys n =
      some ⟨chain keys (value.fresh append),
        if n.isNull then none else some ⟨[], .leafReplaced⟩⟩ := by
  cases hnull : n.isNull with
  | false => rw [writeAt_leaf hmap hnull h]; rfl
  | true =>
      have hn : n = null := by
        rw [← untag_of_not_tagged htag, isNull_iff.mp hnull]
      rw [hn, writeAt_null value append h]
      rfl

/-- A key that a mapping does not have is added at its end, with all that
follows. -/
theorem writeAt_mapping_new {es : Entries} {key : String} (h : Entries.get? key es = none)
    (rest : List String) :
    writeAt value append (key :: rest) (mapping es) =
      some ⟨mapping (es ++ [(text key, chain rest (value.fresh append))]), none⟩ := by
  cases rest with
  | nil => rw [writeAt_singleton, writeLast_mapping, Entries.place_of_get?_none h]; rfl
  | cons next others =>
      have hrest := List.cons_ne_nil next others
      rw [writeAt_of_mapping (untag_mapping es) hrest, h, Option.getD_none,
        writeAt_null value append hrest, Option.map_some, retag_of_not_tagged rfl,
        Entries.set_of_get?_none h]
      rfl

theorem writeAt_mapping_old {es : Entries} {key : String} {inner : Node}
    (h : Entries.get? key es = some inner) {rest : List String} (hrest : rest ≠ []) :
    writeAt value append (key :: rest) (mapping es) =
      (writeAt value append rest inner).map fun w =>
        ⟨mapping (Entries.set key w.node es), w.clash.map (Clash.under key)⟩ := by
  rw [writeAt_of_mapping (untag_mapping es) hrest, h, Option.getD_some]
  rfl

theorem write_eq (root : Node) (w : Write) :
    root.write w = (writeAt w.value w.append (Path.segments w.path) root).map fun written =>
      (written.node, written.clash.map fun c => ⟨Path.ofSegments c.segments, c.kind⟩) := rfl

end Node

end Trialbook

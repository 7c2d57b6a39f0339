import Trialbook.Proofs.Conflict
import Trialbook.Proofs.Conservation
import Trialbook.Proofs.Locality

/-!
# A write stays where it goes

A write changes what its path leads to and the nodes on the way there, and nothing else:
a path that neither leads to one of these nor through the written place finds what it
found before. The mappings on the way get one more key at most, behind the ones they have.

What a write displaces it names. `Node.Blames` lists the collisions there are, each with
the node that was there before. A write that names nothing has kept every leaf, except
that a null or an empty mapping may have given way, and that an append may have put a
leaf in front of its own items.

Each of these is an induction over the steps of a write. All steps but one set a key of a
mapping, so what they leave elsewhere is what `Entries.set` leaves there.
-/

namespace Trialbook

open Node

namespace Entries

theorem keys_prefix_set (key : String) (n : Node) (es : Entries) :
    es.map Prod.fst <+: (set key n es).map Prod.fst := by
  cases hold : get? key es with
  | none =>
      rw [set_of_get?_none hold, List.map_append]
      exact List.prefix_append _ _
  | some old =>
      obtain ⟨before, after, rfl, hnone⟩ := eq_append_of_get? hold
      rw [set_append_cons hnone, List.map_append, List.map_append]
      exact List.prefix_rfl

theorem filter_leaves_mapping (es : Entries) :
    ((mapping es).leaves.filter fun t => !t.value.isVacant) =
      (leaves es).filter fun t => !t.value.isVacant := by
  by_cases hes : es = []
  · subst hes
    rw [leaves_mapping_nil, leaves_nil]
    rfl
  · rw [leaves_mapping hes]

end Entries

namespace Node

theorem at?_set_self (key : String) (n : Node) (es : Entries) (path : List String) :
    (mapping (Entries.set key n es)).at? (key :: path) = n.at? path := by
  rw [at?_cons, child?_mapping, Entries.get?_set_self]
  rfl

/-- Where a key is set, a path that does not go through the key leads where it led. -/
theorem at?_set_of_apart {key : String} {path : List String} (hne : path ≠ [])
    (hpath : ¬ [key] <+: path) (n : Node) (es : Entries) :
    (mapping (Entries.set key n es)).at? path = (mapping es).at? path := by
  obtain ⟨other, path, rfl⟩ := List.exists_cons_of_ne_nil hne
  have hother : key ≠ other := by
    intro hother
    exact hpath (List.cons_prefix_cons.mpr ⟨hother, List.nil_prefix⟩)
  rw [at?_cons, at?_cons, child?_mapping, child?_mapping, Entries.get?_set_of_ne hother]

theorem exists_mapping_set {key : String} {path : List String} {es fs : Entries}
    (hpath : ¬ [key] <+: path) (hes : (mapping fs).at? path = some (mapping es)) (n : Node) :
    ∃ gs, (mapping (Entries.set key n fs)).at? path = some (mapping gs) ∧
      es.map Prod.fst <+: gs.map Prod.fst := by
  by_cases hne : path = []
  · subst hne
    obtain rfl := Node.mapping.inj (Option.some.inj hes)
    exact ⟨_, rfl, Entries.keys_prefix_set key n fs⟩
  · exact ⟨es, (at?_set_of_apart hne hpath n fs).trans hes, List.prefix_rfl⟩

theorem at?_of_not_mapping {n : Node} (h : n.isMapping = false) {path : List String}
    (hpath : path ≠ []) : n.at? path = none := by
  obtain ⟨key, rest, rfl⟩ := List.exists_cons_of_ne_nil hpath
  rw [at?_cons, child?_of_not_mapping h]
  rfl

theorem ne_nil_of_apart {keys path : List String} (h : ¬ Overlap keys path) : path ≠ [] := by
  intro hnil
  exact h (Or.inr (hnil ▸ List.nil_prefix))

theorem at?_chain_of_apart {keys path : List String} (h : ¬ Overlap keys path) (value : Node) :
    (chain keys value).at? path = none := by
  induction keys generalizing path with
  | nil => exact absurd (overlap_nil path) h
  | cons key rest ih =>
      cases path with
      | nil => exact absurd (Or.inr List.nil_prefix) h
      | cons other path =>
          rw [overlap_cons] at h
          by_cases hother : key = other
          · subst hother
            have hget : Entries.get? key [(text key, chain rest value)] =
                some (chain rest value) := by simp [Entries.get?]
            rw [chain_cons, at?_of_get? hget]
            exact ih fun hover => h ⟨rfl, hover⟩
          · exact at?_of_get?_none (by simp [Entries.get?, hother]) path

/-- What a collision of a write at the keys says about the node before the write. -/
inductive Blames (n : Node) : List String → Clash → Prop
  /-- Something else than a mapping or a null was in the way. -/
  | leafReplaced {front back : List String} {found : Node} (hback : back ≠ [])
      (hfound : n.at? front = some found) (hmap : found.isMapping = false)
      (hnull : found.isNull = false) : Blames n (front ++ back) ⟨front, .leafReplaced⟩
  /-- A mapping was there. -/
  | subtreeReplaced {keys : List String} {found : Node} (hfound : n.at? keys = some found)
      (hmap : found.isMapping = true) : Blames n keys ⟨keys, .subtreeReplaced⟩
  /-- Something else than a mapping was there. -/
  | overwritten {keys : List String} {found : Node} (hfound : n.at? keys = some found)
      (hmap : found.isMapping = false) : Blames n keys ⟨keys, .overwritten⟩

theorem Blames.under {key : String} {rest : List String} {inner : Node} {es : Entries} {c : Clash}
    (h : inner.Blames rest c) (hget : Entries.get? key es = some inner) :
    (mapping es).Blames (key :: rest) (c.under key) := by
  cases h with
  | leafReplaced hback hfound hmap hnull =>
      exact .leafReplaced hback ((at?_of_get? hget _).trans hfound) hmap hnull
  | subtreeReplaced hfound hmap =>
      exact .subtreeReplaced ((at?_of_get? hget _).trans hfound) hmap
  | overwritten hfound hmap => exact .overwritten ((at?_of_get? hget _).trans hfound) hmap

end Node

/-! ## One step -/

namespace WriteStep

variable {value : Node} {append : Bool} {keys : List String} {n : Node} {w : Written}

/-- A path that is apart from the keys leads where it led before. -/
theorem at?_of_apart (h : WriteStep value append keys n w) {path : List String}
    (hpath : ¬ Overlap keys path) : w.node.at? path = n.at? path := by
  have hne := ne_nil_of_apart hpath
  induction h generalizing path with
  | @replaced keys n hkeys hmap hnull =>
      rw [at?_chain_of_apart hpath, at?_of_not_mapping hmap hne]
  | @added key es hget rest =>
      -- a new entry is one that is set
      rw [← Entries.set_of_get?_none hget]
      by_cases hbelow : [key] <+: path
      · obtain ⟨path, rfl⟩ := hbelow
        rw [List.singleton_append, overlap_cons] at hpath
        rw [List.singleton_append, at?_set_self, at?_of_get?_none hget]
        exact at?_chain_of_apart (fun hover => hpath ⟨rfl, hover⟩) _
      · exact at?_set_of_apart hne hbelow _ es
  | @joined key es | @displaced key es =>
      exact at?_set_of_apart hne (fun hbelow => hpath (Or.inl hbelow)) _ es
  | @inside key rest es inner w hget hrest hinner ih =>
      by_cases hbelow : [key] <+: path
      · obtain ⟨path, rfl⟩ := hbelow
        rw [List.singleton_append, overlap_cons] at hpath
        have hinside : ¬ Overlap rest path := fun hover => hpath ⟨rfl, hover⟩
        rw [List.singleton_append, at?_set_self, at?_of_get? hget]
        exact ih hinside (ne_nil_of_apart hinside)
      · exact at?_set_of_apart hne hbelow _ es

/-- Mappings that are not at the keys or below stay, and keep their keys in order. -/
theorem exists_mapping (h : WriteStep value append keys n w) {path : List String} {es : Entries}
    (hpath : ¬ keys <+: path) (hes : n.at? path = some (mapping es)) :
    ∃ fs, w.node.at? path = some (mapping fs) ∧ es.map Prod.fst <+: fs.map Prod.fst := by
  induction h generalizing path with
  | @replaced keys n hkeys hmap hnull =>
      by_cases hne : path = []
      · subst hne
        exact absurd (Option.some.inj hes) (ne_mapping hmap es)
      · rw [at?_of_not_mapping hmap hne] at hes
        simp at hes
  | @added key fs hget rest =>
      rw [← Entries.set_of_get?_none hget]
      by_cases hbelow : [key] <+: path
      · obtain ⟨path, rfl⟩ := hbelow
        rw [List.singleton_append, at?_of_get?_none hget] at hes
        simp at hes
      · exact exists_mapping_set hbelow hes _
  | @joined key fs | @displaced key fs => exact exists_mapping_set hpath hes _
  | @inside key rest fs inner w hget hrest hinner ih =>
      by_cases hbelow : [key] <+: path
      · obtain ⟨path, rfl⟩ := hbelow
        rw [List.singleton_append, at?_of_get? hget] at hes
        rw [List.singleton_append, at?_set_self]
        exact ih (fun hinside => hpath (List.cons_prefix_cons.mpr ⟨rfl, hinside⟩)) hes
      · exact exists_mapping_set hbelow hes _

theorem blames (h : WriteStep value append keys n w) {c : Clash} (hc : w.clash = some c) :
    n.Blames keys c := by
  induction h generalizing c with
  | @replaced keys n hkeys hmap hnull =>
      cases hn : n.isNull with
      | true => simp [hn] at hc
      | false =>
          simp only [hn, Bool.false_eq_true, if_false, Option.some.injEq] at hc
          subst hc
          exact .leafReplaced hkeys (at?_nil n) hmap hn
  | added | joined => simp at hc
  | @displaced key es present hget hover =>
      have hfound : (mapping es).at? [key] = some present := at?_of_get? hget []
      rw [Option.some.injEq] at hc
      subst hc
      cases hmap : present.isMapping with
      | true => exact .subtreeReplaced hfound hmap
      | false => exact .overwritten hfound hmap
  | @inside key rest es inner w hget hrest hinner ih =>
      rw [Option.map_eq_some_iff] at hc
      obtain ⟨own, hown, rfl⟩ := hc
      exact (ih hown).under hget

/-- Where nothing is named, the leaves are the same and new ones among them, or one has
become the beginning of a sequence. -/
theorem leaves_kept (h : WriteStep value append keys n w) (hclash : w.clash = none) :
    (n.leaves.filter fun t => !t.value.isVacant).Sublist w.node.leaves ∨
      append = true ∧ ∃ before old after, n.leaves = before ++ ⟨keys, old⟩ :: after ∧
        w.node.leaves = before ++ ⟨keys, old.appended value⟩ :: after := by
  induction h with
  | @replaced keys n hkeys hmap hnull =>
      have hn : n.isNull = true := by
        by_contra hne
        simp [hne] at hclash
      rw [eq_null_of_isNull hn hnull, leaves_of_not_mapping (by simp)]
      exact Or.inl (List.nil_sublist _)
  | @added key es hget rest =>
      rw [Entries.filter_leaves_mapping, leaves_mapping (by simp), Entries.leaves_append]
      exact Or.inl (List.filter_sublist.trans (List.sublist_append_left _ _))
  | @joined key es present happend hget hmap =>
      obtain ⟨before, after, hold, hnew⟩ := Entries.exists_leaves_set hget
      refine Or.inr ⟨happend, before, present, after, ?_, ?_⟩
      · rw [leaves_mapping (Entries.ne_nil_of_get? hget), hold,
          leaves_of_not_mapping (ne_mapping hmap), List.append_assoc]
        rfl
      · rw [leaves_mapping (Entries.set_ne_nil _ _ _), hnew,
          leaves_of_not_mapping (by simp [appended]), List.append_assoc]
        rfl
  | displaced => simp at hclash
  | @inside key rest es inner w hget hrest hinner ih =>
      rw [Option.map_eq_none_iff] at hclash
      obtain ⟨before, after, hold, hnew⟩ := Entries.exists_leaves_set hget
      rw [leaves_mapping (Entries.ne_nil_of_get? hget), hold,
        leaves_mapping (Entries.set_ne_nil _ _ _), hnew]
      rcases ih hclash with hkept | ⟨happend, front, old, back, hfront, hback⟩
      · refine Or.inl ?_
        rw [List.filter_append, List.filter_append, List.filter_map]
        exact (List.filter_sublist.append (hkept.map _)).append List.filter_sublist
      · refine Or.inr ⟨happend, before ++ front.map (Twig.under key), old,
          back.map (Twig.under key) ++ after, ?_, ?_⟩
        · rw [hfront]
          simp [Twig.under]
        · rw [hback]
          simp [Twig.under]

end WriteStep

/-! ## One write -/

namespace Node

/-- A write into a document without tags changes nothing at a path that is neither its
own nor the beginning or an extension of it. Mappings that are not replaced keep their
keys in order, with a new one at the end at most. A collision is at the path of the write
or at a beginning of it, which is the empty text for the root, and names what was there.
If there is none, all leaves but nulls and empty mappings are still there, or are the
first items of the sequence that was appended to. -/
theorem write_stays_local {root : Node} (hroot : ∀ t ∈ root.leaves, t.value.isTagged = false)
    (w : Write) :
    ∃ node collision, root.write w = some (node, collision) ∧
      (∀ path, ¬ Overlap (Path.segments w.path) path → node.at? path = root.at? path) ∧
      (∀ path es, ¬ Path.segments w.path <+: path → root.at? path = some (mapping es) →
        ∃ fs, node.at? path = some (mapping fs) ∧ es.map Prod.fst <+: fs.map Prod.fst) ∧
      (∀ c, collision = some c → ∃ clash, root.Blames (Path.segments w.path) clash ∧
        c.kind = clash.kind ∧ c.path = Path.ofSegments clash.segments ∧
        (clash.segments = Path.segments w.path → c.path = w.path)) ∧
      (collision = none →
        (root.leaves.filter fun t => !t.value.isVacant).Sublist node.leaves ∨
        w.append = true ∧ ∃ before old after,
          root.leaves = before ++ ⟨Path.segments w.path, old⟩ :: after ∧
          node.leaves = before ++
            ⟨Path.segments w.path, sequence (old.asItems ++ w.value.splice)⟩ :: after) := by
  have hwalk : root.Walkable := fun t ht htag => absurd htag (by simp [hroot t ht])
  obtain ⟨written, hwritten, hstep⟩ :=
    exists_writeStep w.value w.append (Path.segments_ne_nil w.path) hwalk
  refine ⟨written.node, written.clash.map Clash.reported, ?_, ?_, ?_, ?_, ?_⟩
  · rw [write_eq, hwritten]
    rfl
  · exact fun path hpath => hstep.at?_of_apart hpath
  · exact fun path es hpath hes => hstep.exists_mapping hpath hes
  · intro c hc
    rw [Option.map_eq_some_iff] at hc
    obtain ⟨clash, hclash, rfl⟩ := hc
    refine ⟨clash, hstep.blames hclash, rfl, rfl, fun hkeys => ?_⟩
    rw [Clash.reported, hkeys, Path.ofSegments_segments]
  · intro hnone
    exact hstep.leaves_kept (Option.map_eq_none_iff.mp hnone)

/-- A write through a text, which is named, beside a null and in front of another key. -/
theorem write_stays_local_through_text :
    let root := mapping [(text "a", mapping [(text "b", text "x"), (text "c", null)]),
      (text "d", sequence [bool true])]
    (∀ t ∈ root.leaves, t.value.isTagged = false) ∧
    ∃ node es, root.write ⟨"a.b.e", text "y", false⟩ =
        some (node, some ⟨"a.b", .leafReplaced⟩) ∧
      node.at? ["a", "c"] = some null ∧ node.at? ["d"] = some (sequence [bool true]) ∧
      node.at? ["a"] = some (mapping es) ∧ [text "b", text "c"] <+: es.map Prod.fst := by
  intro root
  have hroot : ∀ t ∈ root.leaves, t.value.isTagged = false := by
    simp [root, leaves, Entries.leaves, isTagged]
  obtain ⟨node, collision, hwrite, hapart, hmappings, -, -⟩ :=
    write_stays_local hroot ⟨"a.b.e", text "y", false⟩
  have hsegments : Path.segments "a.b.e" = ["a", "b", "e"] := by decide
  rw [hsegments] at hapart hmappings
  obtain ⟨es, hes, hkeys⟩ := hmappings ["a"] _ (by decide) rfl
  have hcollision : collision = some ⟨"a.b", .leafReplaced⟩ :=
    (Prod.mk.inj (Option.some.inj hwrite)).2.symm
  subst hcollision
  exact ⟨hroot, node, es, hwrite, hapart ["a", "c"] (by decide), hapart ["d"] (by decide), hes,
    hkeys⟩

end Node

end Trialbook

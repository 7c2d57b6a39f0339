import Trialbook.Proofs.Pass
import Trialbook.Proofs.Step
import Mathlib.Algebra.Order.Group.Multiset
import Mathlib.Data.List.Flatten
import Mathlib.Tactic.Abel

/-!
# A migration loses nothing that it does not report

What a migration has to keep are items: the elements of a sequence, and any
other leaf by itself. Counting items instead of leaves is what makes room for
appending, which turns several leaves into one and keeps every item.

The count of a document is its `cargo`, a multiset. It leaves out nulls and
empty mappings, which disappear without notice when something grows in their
place. A write that reports no collision adds exactly the cargo of its value,
so a rebuild without collisions holds the cargo of all writes, and a pass that
drops nothing writes every leaf at least once. Two passes of that kind in a
row give the first half of `convert_conserves`.

The other half needs no count and no condition. Whatever collides, the leaves
after a write are old ones, the value, or a sequence made of both, so no item
appears that did not come in.
-/

namespace Trialbook

open Node

/-! ## Items -/

namespace Node

/-- Whether the node is null or an empty mapping, outside of any tag. -/
def isVacant : Node → Bool
  | null => true
  | mapping es => es.isEmpty
  | _ => false

/-- What a leaf has that must not be lost. -/
def load (n : Node) : Multiset Node := if n.isVacant then 0 else n.splice

/-- What the leaves of a document have together. -/
def cargo (n : Node) : Multiset Node := (n.leaves.map fun t => t.value.load).sum

end Node

namespace Entries

/-- What the leaves of a mapping's entries have together. -/
def cargo (es : Entries) : Multiset Node := ((leaves es).map fun t => t.value.load).sum

/-- The items of the leaves of a mapping's entries. -/
def items (es : Entries) : List Node := (leaves es).flatMap fun t => t.value.splice

end Entries

namespace FlatView

/-- The items of the leaves: the elements of a sequence, any other leaf itself. -/
def items (flat : FlatView) : List Node := flat.flatMap fun leaf => leaf.value.splice

/-- The items of the leaves other than null and the empty mapping. -/
def kept (flat : FlatView) : List Node :=
  items (flat.filter fun leaf => !leaf.value.isVacant)

theorem coe_kept (flat : FlatView) :
    (flat.kept : Multiset Node) = (flat.map fun leaf => leaf.value.load).sum := by
  induction flat with
  | nil => rfl
  | cons leaf flat ih =>
      rw [List.map_cons, List.sum_cons, ← ih, load]
      cases h : leaf.value.isVacant <;> simp [kept, items, h]

theorem kept_le_items (flat : FlatView) :
    (flat.kept : Multiset Node) ≤ (flat.items : Multiset Node) := by
  rw [Multiset.coe_le]
  exact (List.filter_sublist.flatMap _).subperm

end FlatView

namespace Node

theorem load_le_splice (n : Node) : n.load ≤ (n.splice : Multiset Node) := by
  rw [load]
  split
  · exact Multiset.zero_le _
  · exact le_rfl

theorem splice_fresh (value : Node) (append : Bool) :
    (value.fresh append).splice = value.splice := by
  cases append <;> rfl

theorem asItems_subset_splice (n : Node) : n.asItems ⊆ n.splice := by
  cases n <;> simp [asItems, splice]

theorem IsLeaf.cargo {n : Node} (h : n.IsLeaf) : n.cargo = n.load := by
  rw [Node.cargo, h]
  simp

theorem IsLeaf.load_le_cargo_fresh {n : Node} (h : n.IsLeaf) (append : Bool) :
    n.load ≤ (n.fresh append).cargo := by
  rw [(h.fresh append).cargo]
  cases append with
  | false => exact le_rfl
  | true => exact n.load_le_splice

theorem cargo_mapping (es : Entries) : (mapping es).cargo = Entries.cargo es := by
  by_cases hes : es = []
  · subst hes
    rw [Node.cargo, leaves_mapping_nil, Entries.cargo, Entries.leaves_nil]
    rfl
  · rw [Node.cargo, leaves_mapping hes]
    rfl

theorem cargo_under (key : String) (n : Node) :
    ((n.leaves.map (Twig.under key)).map fun t => t.value.load).sum = n.cargo := by
  rw [List.map_map]
  rfl

theorem cargo_chain (keys : List String) (n : Node) : (chain keys n).cargo = n.cargo := by
  rw [Node.cargo, leaves_chain, List.map_map]
  rfl

end Node

namespace Entries

theorem cargo_append (es fs : Entries) : cargo (es ++ fs) = cargo es + cargo fs := by
  rw [cargo, leaves_append, List.map_append, List.sum_append]
  rfl

theorem cargo_cons (k v : Node) (es : Entries) : cargo ((k, v) :: es) = v.cargo + cargo es := by
  rw [cargo, leaves_cons, List.map_append, List.sum_append, cargo_under]
  rfl

theorem cargo_singleton (k v : Node) : cargo [(k, v)] = v.cargo := by
  rw [cargo_cons, cargo, leaves_nil, List.map_nil, List.sum_nil, add_zero]

theorem cargo_set {key : String} {old n : Node} {es : Entries} {more : Multiset Node}
    (hold : get? key es = some old) (h : n.cargo = old.cargo + more) :
    cargo (set key n es) = cargo es + more := by
  obtain ⟨before, after, rfl, hnone⟩ := eq_append_of_get? hold
  rw [set_append_cons hnone, cargo_append, cargo_cons, cargo_append, cargo_cons, h]
  abel

end Entries

/-! ## One write -/

/-- What a write brings. -/
def Write.cargo (w : Write) : Multiset Node := (w.value.fresh w.append).cargo

namespace WriteStep

variable {value : Node} {append : Bool} {keys : List String} {n : Node} {w : Written}

/-- A write that displaces nothing adds what it brings. -/
theorem cargo (h : WriteStep value append keys n w) (hclash : w.clash = none) :
    w.node.cargo = n.cargo + (value.fresh append).cargo := by
  induction h with
  | @replaced keys n hkeys hmap hnull =>
      -- nothing was reported, so this was a null, and a plain one
      have hn : n.isNull = true := by
        by_contra hne
        simp [hne] at hclash
      have hzero : n.cargo = 0 := by
        rw [eq_null_of_isNull hn hnull]
        rfl
      rw [cargo_chain, hzero, zero_add]
  | @added key es hget rest =>
      rw [cargo_mapping, cargo_mapping, Entries.cargo_append, Entries.cargo_singleton,
        cargo_chain]
  | @joined key es present happend hget hmap =>
      subst happend
      have hplain := ne_mapping hmap
      have hload : present.load = (present.asItems : Multiset Node) := by
        cases present with
        | mapping fs => exact absurd rfl (hplain fs)
        | null | bool | number | text | sequence | tagged => rfl
      have hcargo : (present.appended value).cargo =
          present.cargo + (value.fresh true).cargo := by
        rw [IsLeaf.cargo (leaves_of_not_mapping hplain), hload]
        rw [IsLeaf.cargo (leaves_of_not_mapping (by simp [appended])),
          IsLeaf.cargo (leaves_of_not_mapping (by simp [fresh_true]))]
        rfl
      rw [cargo_mapping, cargo_mapping, Entries.cargo_set hget hcargo]
  | displaced hget hover => simp at hclash
  | @inside key rest es inner w hget hrest hinner ih =>
      rw [Option.map_eq_none_iff] at hclash
      rw [cargo_mapping, cargo_mapping, Entries.cargo_set hget (ih hclash)]

theorem walkable (h : WriteStep value append keys n w) (hn : n.Walkable)
    (hvalue : value.Walkable) : w.node.Walkable := by
  have hfresh : (value.fresh append).Walkable := by
    cases append with
    | false => exact hvalue
    | true =>
        intro t ht
        rw [fresh_true, leaves_of_not_mapping (by simp), List.mem_singleton] at ht
        simp [ht, isTagged]
  intro t ht
  rcases h.mem_leaves ht with ht | ⟨s, hs, rfl⟩ | ⟨_, old, _, rfl⟩
  · exact hn t ht
  · exact hfresh s hs
  · simp [appended, isTagged]

/-- A write makes no items. -/
theorem items {es fs : Entries} (h : WriteStep value append keys (mapping es) w)
    (hvalue : value.IsLeaf) (hw : w.node = mapping fs) :
    Entries.items fs ⊆ Entries.items es ++ value.splice := by
  intro x hx
  obtain ⟨t, ht, hx⟩ := List.mem_flatMap.mp hx
  have hkeys : t.keys ≠ [] := keys_ne_nil_of_mem ht
  have hold : ∀ s : Twig, s.keys ≠ [] → s ∈ (mapping es).leaves → x ∈ s.value.splice →
      x ∈ Entries.items es := by
    intro s hs hmem hxs
    have hes : es ≠ [] := by
      rintro rfl
      rw [leaves_mapping_nil, List.mem_singleton] at hmem
      exact hs (by rw [hmem])
    exact List.mem_flatMap.mpr ⟨s, leaves_mapping hes ▸ hmem, hxs⟩
  rw [List.mem_append]
  have ht : t ∈ w.node.leaves := hw ▸ Entries.mem_leaves_mapping ht
  rcases h.mem_leaves ht with ht | ⟨s, hs, rfl⟩ | ⟨_, old, hmem, rfl⟩
  · exact Or.inl (hold t hkeys ht hx)
  · rw [hvalue.fresh append, List.mem_singleton] at hs
    subst hs
    exact Or.inr (splice_fresh value append ▸ hx)
  · rcases List.mem_append.mp hx with hx | hx
    · exact Or.inl (hold ⟨keys, old⟩ hkeys hmem (asItems_subset_splice old hx))
    · exact Or.inr hx

end WriteStep

/-- Whether the leaf can be written by a migration: it is no mapping with
entries, and no null or mapping under a tag. -/
def Node.IsCarried (n : Node) : Prop := n.IsLeaf ∧ n.Walkable

theorem Node.IsCarried.of_untagged {n : Node} (h : n.IsLeaf) (htag : n.isTagged = false) :
    n.IsCarried := by
  refine ⟨h, fun t ht => ?_⟩
  simp [h.eq_of_mem ht, htag]

theorem Node.Walkable.isCarried {n : Node} (h : n.Walkable) :
    ∀ t ∈ n.leaves, t.value.IsCarried := by
  intro t ht
  have hleaf := IsLeaf.of_mem_leaves t ht
  refine ⟨hleaf, fun s hs => ?_⟩
  rw [hleaf.eq_of_mem hs]
  exact h t ht

/-! ## A run of writes -/

theorem write_conserves {es : Entries} (hes : (mapping es).Walkable) {w : Write}
    (hw : w.value.IsCarried) :
    ∃ fs c, (mapping es).write w = some (mapping fs, c) ∧ (mapping fs).Walkable ∧
      (c = none → Entries.cargo fs = Entries.cargo es + w.cargo) ∧
      Entries.items fs ⊆ Entries.items es ++ w.value.splice := by
  obtain ⟨written, hwritten, hstep⟩ :=
    exists_writeStep w.value w.append (Path.segments_ne_nil w.path) hes
  obtain ⟨fs, hfs⟩ := hstep.node_eq_mapping
  have hwalk := hstep.walkable hes hw.2
  refine ⟨fs, written.clash.map fun c => ⟨Path.ofSegments c.segments, c.kind⟩, ?_,
    hfs ▸ hwalk, ?_, hstep.items hw.1 hfs⟩
  · rw [write_eq, hwritten, Option.map_some, hfs]
  · intro hnone
    have hcargo := hstep.cargo (Option.map_eq_none_iff.mp hnone)
    rwa [hfs, cargo_mapping, cargo_mapping] at hcargo

/-- The run comes to an end. It has the cargo of all its writes if it reports
nothing, and it makes no items in any case. -/
theorem writeAll_conserves {es : Entries} (hes : (mapping es).Walkable) {ws : List Write}
    (hws : ∀ w ∈ ws, w.value.IsCarried) :
    ∃ fs cs, (mapping es).writeAll .overwrite ws = .ok (mapping fs, cs) ∧
      (mapping fs).Walkable ∧
      (cs = [] → Entries.cargo fs = Entries.cargo es + (ws.map Write.cargo).sum) ∧
      Entries.items fs ⊆ Entries.items es ++ ws.flatMap fun w => w.value.splice := by
  induction ws generalizing es with
  | nil =>
      refine ⟨es, [], by rw [writeAll], hes, fun _ => ?_, ?_⟩
      · rw [List.map_nil, List.sum_nil, add_zero]
      · exact List.subset_append_left _ _
  | cons w ws ih =>
      obtain ⟨gs, c, hwrite, hgs, hcargo, hitems⟩ :=
        write_conserves hes (hws w List.mem_cons_self)
      obtain ⟨fs, cs, hrun, hfs, hcargo', hitems'⟩ :=
        ih hgs fun w hw => hws w (List.mem_cons_of_mem _ hw)
      have hsubset : Entries.items fs ⊆
          Entries.items es ++ (w :: ws).flatMap fun w => w.value.splice := by
        intro x hx
        rw [List.flatMap_cons, ← List.append_assoc, List.mem_append]
        rcases List.mem_append.mp (hitems' hx) with hx | hx
        · exact Or.inl (hitems hx)
        · exact Or.inr hx
      cases c with
      | none =>
          refine ⟨fs, cs, ?_, hfs, fun hcs => ?_, hsubset⟩
          · rw [writeAll, hwrite]
            exact hrun
          · rw [hcargo' hcs, hcargo rfl, List.map_cons, List.sum_cons, add_assoc]
      | some c =>
          refine ⟨fs, c :: cs, ?_, hfs, fun hcs => by simp at hcs, hsubset⟩
          rw [writeAll, hwrite]
          show (writeAll .overwrite (mapping gs) ws >>= fun r => pure (r.1, c :: r.2)) = _
          rw [hrun]
          rfl

/-! ## A pass

A rule may send a leaf to many places, and each of them takes all of its
items. So a pass can only add to the cargo, and all that has to be shown is
that a leaf which is not dropped goes somewhere. -/

namespace Migration

theorem load_le_cargo_writesOf {rules : RuleSet} {leaf : Leaf} (hleaf : leaf.value.IsLeaf)
    (hkept : rules.drops leaf.path = false) :
    leaf.value.load ≤ ((rules.writesOf leaf).map Write.cargo).sum := by
  have hne : rules.writesOf leaf ≠ [] := by
    rw [Ne, RuleSet.writesOf_eq_nil_iff, hkept]
    simp
  obtain ⟨w, ws, hws⟩ := List.exists_cons_of_ne_nil hne
  have hvalue : w.value = leaf.value :=
    RuleSet.value_of_mem_writesOf (by rw [hws]; exact List.mem_cons_self)
  rw [hws, List.map_cons, List.sum_cons, Write.cargo, hvalue]
  exact (hleaf.load_le_cargo_fresh w.append).trans (Multiset.le_add_right _ _)

theorem kept_le_cargo_writes {rules : RuleSet} {flat : FlatView}
    (hflat : ∀ leaf ∈ flat, leaf.value.IsLeaf)
    (hdropped : (flat.map Leaf.path).filter rules.drops = []) :
    (flat.kept : Multiset Node) ≤ ((flat.flatMap rules.writesOf).map Write.cargo).sum := by
  rw [FlatView.coe_kept]
  induction flat with
  | nil => exact le_rfl
  | cons leaf flat ih =>
      rw [List.map_cons, List.filter_eq_nil_iff] at hdropped
      have hfirst := hdropped leaf.path List.mem_cons_self
      have hothers : (flat.map Leaf.path).filter rules.drops = [] :=
        List.filter_eq_nil_iff.mpr fun path hp => hdropped path (List.mem_cons_of_mem _ hp)
      rw [List.map_cons, List.sum_cons, List.flatMap_cons, List.map_append, List.sum_append]
      exact add_le_add
        (load_le_cargo_writesOf (hflat leaf List.mem_cons_self) (by simpa using hfirst))
        (ih (fun leaf hl => hflat leaf (List.mem_cons_of_mem _ hl)) hothers)

theorem rebuild_conserves (rules : RuleSet) {flat : FlatView}
    (hflat : ∀ leaf ∈ flat, leaf.value.IsCarried) :
    ∃ fs cs, rebuild .overwrite (flat.flatMap rules.writesOf) = .ok (mapping fs, cs) ∧
      (mapping fs).Walkable ∧
      ((flat.map Leaf.path).filter rules.drops = [] → cs = [] →
        (flat.kept : Multiset Node) ≤ Entries.cargo fs) ∧
      Entries.items fs ⊆ flat.items := by
  have hws : ∀ w ∈ flat.flatMap rules.writesOf, w.value.IsCarried := by
    intro w hw
    obtain ⟨leaf, hleaf, hvalue⟩ := value_of_mem_writes hw
    exact hvalue ▸ hflat leaf hleaf
  obtain ⟨fs, cs, hrun, hfs, hcargo, hitems⟩ := writeAll_conserves walkable_empty hws
  refine ⟨fs, cs, hrun, hfs, fun hdropped hcs => ?_, fun x hx => ?_⟩
  · rw [hcargo hcs]
    refine (kept_le_cargo_writes (fun leaf hl => (hflat leaf hl).1) hdropped).trans ?_
    exact Multiset.le_add_left _ _
  · rcases List.mem_append.mp (hitems hx) with hx | hx
    · simp [Entries.items] at hx
    · obtain ⟨w, hw, hx⟩ := List.mem_flatMap.mp hx
      obtain ⟨leaf, hleaf, hvalue⟩ := value_of_mem_writes hw
      exact List.mem_flatMap.mpr ⟨leaf, hleaf, hvalue ▸ hx⟩

end Migration

/-! ## The leaves in between

The second pass starts from the flat view of what the first has built. That
view forgets which empty keys led to a leaf, but no leaf that holds anything
is missing from it, and paths play no part in the count. -/

namespace FlatView

/-- The leaves that no path can name are empty mappings, which hold nothing. -/
theorem kept_filter_isNamed (flat : FlatView) :
    FlatView.kept (flat.filter Leaf.isNamed) = flat.kept := by
  rw [kept, kept, List.filter_filter]
  congr 1
  apply List.filter_congr
  intro leaf _
  cases hvacant : leaf.value.isVacant with
  | true => simp
  | false =>
      have hhollow : leaf.value.isHollow = false := by
        cases hvalue : leaf.value with
        | mapping es => rw [hvalue] at hvacant; exact hvacant
        | null | bool | number | text | sequence | tagged => rfl
      simp [Leaf.isNamed, hhollow]

end FlatView

namespace Node

theorem coe_kept_flattenAt (path : String) (n : Node) :
    ((n.flattenAt path).kept : Multiset Node) = n.cargo := by
  rw [flattenAt_eq, FlatView.kept_filter_isNamed, FlatView.coe_kept, List.map_map]
  rfl

theorem items_flattenAt_subset (es : Entries) :
    ((mapping es).flattenAt "").items ⊆ Entries.items es := by
  intro x hx
  obtain ⟨leaf, hleaf, hx⟩ := List.mem_flatMap.mp hx
  obtain ⟨t, ht, rfl⟩ := mem_flattenAt_empty_path hleaf
  exact List.mem_flatMap.mpr ⟨t, ht, hx⟩

theorem Walkable.isCarried_flattenAt {n : Node} (h : n.Walkable) (path : String) :
    ∀ leaf ∈ n.flattenAt path, leaf.value.IsCarried := by
  intro leaf hleaf
  obtain ⟨t, ht, rfl⟩ := mem_flattenAt hleaf
  exact h.isCarried t ht

end Node

/-! ## The migration -/

namespace Migration

/-- A document without tagged leaves can be migrated by any rules. If nothing is
dropped and nothing collides, every item of a leaf other than null and the empty
mapping is an item of the result, as often as it came in. And no item of the
result is new, whatever is dropped or collides. -/
theorem convert_conserves (document : Node) (kind : DocumentKind) (rules : RuleTable)
    (huntagged : ∀ leaf ∈ flattenUnder kind document, leaf.value.isTagged = false) :
    ∃ result report, convert document kind rules .overwrite = .ok (result, report) ∧
      (report.dropped = [] → report.collisions = [] →
        ((flattenUnder kind document).kept : Multiset Node) ≤ (result.flattenAt "").items) ∧
      ∀ item ∈ (result.flattenAt "").items, item ∈ (flattenUnder kind document).items := by
  have hflat : ∀ leaf ∈ flattenUnder kind document, leaf.value.IsCarried := by
    intro leaf hleaf
    obtain ⟨t, ht, rfl⟩ := mem_flattenAt hleaf
    exact .of_untagged (IsLeaf.of_mem_leaves t ht) (huntagged _ hleaf)
  obtain ⟨staged, first, hfirst, hstaged, hkept, hitems⟩ :=
    rebuild_conserves rules.modifiers hflat
  obtain ⟨result, second, hsecond, _, hkept', hitems'⟩ :=
    rebuild_conserves rules.terminal (hstaged.isCarried_flattenAt "")
  refine ⟨_, _, convert_ok hfirst hsecond, ?_, ?_⟩
  · intro hdropped hcollisions
    obtain ⟨hdrops, hdrops'⟩ := List.append_eq_nil_iff.mp hdropped
    obtain ⟨rfl, rfl⟩ := List.append_eq_nil_iff.mp hcollisions
    calc ((flattenUnder kind document).kept : Multiset Node)
        ≤ Entries.cargo staged := hkept hdrops rfl
      _ = ((mapping staged).flattenAt "").kept := by
          rw [coe_kept_flattenAt, cargo_mapping]
      _ ≤ Entries.cargo result := hkept' hdrops' rfl
      _ = ((mapping result).flattenAt "").kept := by
          rw [coe_kept_flattenAt, cargo_mapping]
      _ ≤ ((mapping result).flattenAt "").items := FlatView.kept_le_items _
  · intro item hitem
    have hstage := hitems' (items_flattenAt_subset result hitem)
    exact hitems (items_flattenAt_subset staged hstage)

/-- Two leaves, one of them a list that holds a null, go to one sequence. -/
theorem convert_conserves_appended :
    (∀ leaf ∈ flattenUnder .te
      (mapping [(text "a", sequence [bool true, null]), (text "b", text "x")]),
        leaf.value.isTagged = false) ∧
    ∃ report,
      convert (mapping [(text "a", sequence [bool true, null]), (text "b", text "x")]) .te
          ⟨[⟨"<ANY>", ⟨.empty, []⟩, [Rule.Template.ofText "+te.c"]⟩], []⟩ .overwrite =
        .ok (mapping [(text "te",
          mapping [(text "c", sequence [bool true, null, text "x"])])], report) ∧
      report.dropped = [] ∧ report.collisions = [] ∧
      ((flattenUnder .te
        (mapping [(text "a", sequence [bool true, null]), (text "b", text "x")])).kept :
          Multiset Node) ≤ ([bool true, null, text "x"] : List Node) := by
  have huntagged : ∀ leaf ∈ flattenUnder .te
      (mapping [(text "a", sequence [bool true, null]), (text "b", text "x")]),
      leaf.value.isTagged = false := by
    intro leaf hleaf
    rcases List.mem_cons.mp hleaf with rfl | hleaf
    · rfl
    · rw [List.mem_singleton.mp hleaf]
      rfl
  have hfirst : rebuild .overwrite ((flattenUnder .te
      (mapping [(text "a", sequence [bool true, null]), (text "b", text "x")])).flatMap
        (RuleSet.writesOf [⟨"<ANY>", ⟨.empty, []⟩, [Rule.Template.ofText "+te.c"]⟩])) =
      .ok (mapping [(text "te", mapping [(text "c", sequence [bool true, null, text "x"])])],
        []) := rfl
  have hsecond : rebuild .overwrite (((mapping [(text "te",
      mapping [(text "c", sequence [bool true, null, text "x"])])]).flattenAt "").flatMap
        (RuleSet.writesOf [])) =
      .ok (mapping [(text "te", mapping [(text "c", sequence [bool true, null, text "x"])])],
        []) := rfl
  have hconvert := @convert_ok _ _ _ .te ⟨_, _⟩ _ _ _ hfirst hsecond
  obtain ⟨result, report, hresult, hkept, _⟩ := convert_conserves _ .te _ huntagged
  rw [hconvert] at hresult
  injection hresult with hpair
  obtain ⟨rfl, rfl⟩ := Prod.mk.inj hpair
  exact ⟨huntagged, _, hconvert, rfl, rfl, hkept rfl rfl⟩

end Migration

end Trialbook

import Trialbook.Proofs.Pass
import Trialbook.Proofs.Step
import Mathlib.Data.List.Infix
import Mathlib.Data.List.Pairwise

/-!
# Collisions are conflicts between paths

Whether writes collide can be told from their paths alone, as long as their
values are neither null nor mappings: two of them conflict when their paths
are the same or one leads through the other. A rebuild finds this out one
write at a time, by three tests at three depths, against a tree that by then
holds nothing but leaves.

The invariant that ties the tree to the writes before is `Holds`: the leaves
of the tree are those writes. A write in conflict with none of them adds its
own leaf and meets nothing (`WriteStep.leaves_of_apart`). A write in conflict
with one of them is caught, and what is reported is the shorter of the two
paths (`WriteStep.clash_of_catches`).
-/

namespace Trialbook

open Node

/-! ## Paths that overlap -/

/-- Whether one list of keys is the beginning of the other, or the same. -/
def Overlap (p q : List String) : Prop := p <+: q ∨ q <+: p

instance (p q : List String) : Decidable (Overlap p q) :=
  inferInstanceAs (Decidable (p <+: q ∨ q <+: p))

/-- The shorter of two lists of keys. -/
def shorterOf (p q : List String) : List String := if p.length ≤ q.length then p else q

theorem overlap_nil (q : List String) : Overlap [] q := Or.inl List.nil_prefix

theorem overlap_cons {k l : String} {p q : List String} :
    Overlap (k :: p) (l :: q) ↔ k = l ∧ Overlap p q := by
  rw [Overlap, Overlap, List.cons_prefix_cons, List.cons_prefix_cons, and_or_left,
    @eq_comm _ l k]

theorem shorterOf_nil (q : List String) : shorterOf [] q = [] := if_pos (Nat.zero_le _)

theorem shorterOf_cons (k : String) (p q : List String) :
    shorterOf (k :: p) (k :: q) = k :: shorterOf p q := by
  rw [shorterOf, shorterOf, List.length_cons, List.length_cons]
  split <;> rename_i h
  · rw [if_pos (by omega)]
  · rw [if_neg (by omega)]

theorem shorterOf_nil_right (p : List String) : shorterOf p [] = [] := by
  cases p with
  | nil => rfl
  | cons k p => rfl

namespace Write

/-- The leaf that an assignment makes. -/
def toTwig (w : Write) : Twig := ⟨Path.segments w.path, w.value⟩

/-- Whether two writes have the same path, or the path of one is a beginning,
segment by segment, of the path of the other. -/
def Conflicts (a b : Write) : Prop := Overlap (Path.segments a.path) (Path.segments b.path)

instance (a b : Write) : Decidable (a.Conflicts b) :=
  inferInstanceAs (Decidable (Overlap _ _))

/-- The path of fewer segments. -/
def shorterPath (a b : Write) : String :=
  if (Path.segments a.path).length ≤ (Path.segments b.path).length then a.path else b.path

/-- Whether no two of the writes are in conflict. -/
def Apart (ws : List Write) : Prop := ws.Pairwise fun a b => ¬ a.Conflicts b

instance (ws : List Write) : Decidable (Apart ws) :=
  inferInstanceAs (Decidable (ws.Pairwise fun a b => ¬ a.Conflicts b))

/-- Whether the write is an assignment of something that is, under any tags,
neither null nor a mapping. -/
def IsSolid (w : Write) : Prop :=
  w.append = false ∧ w.value.isMapping = false ∧ w.value.isNull = false

theorem ofSegments_shorterOf (a b : Write) :
    Path.ofSegments (shorterOf (Path.segments a.path) (Path.segments b.path)) =
      a.shorterPath b := by
  rw [shorterOf, shorterPath]
  split <;> exact Path.ofSegments_segments _

theorem IsSolid.isLeaf {w : Write} (h : w.IsSolid) : w.value.IsLeaf :=
  leaves_of_not_mapping (ne_mapping h.2.1)

end Write

/-! ## One write

Both halves are inductions over `WriteStep`. What a conflict turns on is the
first key: a leaf that overlaps with a path stands under it, so the steps that
find nothing there are out, and the one that goes down has the conflict again
one key further in. -/

/-- Whether the leaf catches a write at the keys. It does when the keys lead to
it or to a mapping around it, and when they lead through it, unless it is null
or a mapping under any tags. -/
def Twig.Catches (t : Twig) (keys : List String) : Prop :=
  keys <+: t.keys ∨ t.keys <+: keys ∧ t.value.isMapping = false ∧ t.value.isNull = false

namespace Twig

theorem Catches.overlap {t : Twig} {keys : List String} (h : t.Catches keys) :
    Overlap t.keys keys := by
  rcases h with h | h
  · exact Or.inr h
  · exact Or.inl h.1

theorem catches_under {t : Twig} {key : String} {rest : List String} :
    (t.under key).Catches (key :: rest) ↔ t.Catches rest := by
  rw [Catches, Catches, under_keys, under_value, List.cons_prefix_cons, List.cons_prefix_cons]
  simp only [true_and]

/-- The one leaf of a mapping that is none of its entries' catches nothing. -/
theorem Catches.mem_entries {t : Twig} {es : Entries} {key : String} {rest : List String}
    (h : t.Catches (key :: rest)) (ht : t ∈ (mapping es).leaves) : t ∈ Entries.leaves es := by
  by_cases hes : es = []
  · subst hes
    rw [leaves_mapping_nil, List.mem_singleton] at ht
    subst ht
    simp [Catches, isMapping] at h
  · rwa [leaves_mapping hes] at ht

end Twig

/-- Whether no leaf of a document is null or a mapping, under any tags. -/
structure Node.Solid (n : Node) : Prop where
  keyed : n.WellKeyed
  values : ∀ t ∈ n.leaves, t.value.isMapping = false ∧ t.value.isNull = false

namespace Node

theorem Solid.walkable {n : Node} (h : n.Solid) : n.Walkable := fun t ht _ => h.values t ht

theorem WellKeyed.chain {n : Node} (h : n.WellKeyed) {keys : List String}
    (hkeys : ∀ key ∈ keys, Path.Dotless key) : (chain keys n).WellKeyed := by
  induction keys with
  | nil => exact h
  | cons key rest ih =>
      have hempty : (Node.mapping []).WellKeyed := .mapping .nil (by simp)
      exact WellKeyed.cons_iff.mpr ⟨⟨key, rfl, hkeys key List.mem_cons_self, rfl⟩,
        ih fun k hk => hkeys k (List.mem_cons_of_mem _ hk), hempty⟩

theorem WellKeyed.append_new {es : Entries} (h : (Node.mapping es).WellKeyed) {key : String}
    (hkey : Path.Dotless key) (hnone : Entries.get? key es = none) {n : Node}
    (hn : n.WellKeyed) : (Node.mapping (es ++ [(text key, n)])).WellKeyed := by
  refine .mapping (h.named.append_new hkey hnone n) fun e he => ?_
  rcases List.mem_append.mp he with he | he
  · exact h.value he
  · rw [List.mem_singleton.mp he]
    exact hn

theorem WellKeyed.set_old {key : String} {old n : Node} {es : Entries}
    (h : (Node.mapping es).WellKeyed) (hold : Entries.get? key es = some old)
    (hn : n.WellKeyed) : (Node.mapping (Entries.set key n es)).WellKeyed := by
  refine .mapping (h.named.set_old hold n) fun e he => ?_
  obtain ⟨before, after, rfl, hnone⟩ := Entries.eq_append_of_get? hold
  rw [Entries.set_append_cons hnone] at he
  rcases List.mem_append.mp he with he | he
  · exact h.value (List.mem_append_left _ he)
  · rcases List.mem_cons.mp he with rfl | he
    · exact hn
    · exact h.value (by simp [he])

end Node

/-- A leaf that overlaps with a path stands under the first key of the path. -/
theorem Entries.get?_of_overlap {es : Entries} (h : es.Named) {t : Twig}
    (ht : t ∈ leaves es) {key : String} {rest : List String}
    (hover : Overlap t.keys (key :: rest)) :
    ∃ inner, get? key es = some inner ∧
      ∃ s ∈ inner.leaves, t = s.under key ∧ Overlap s.keys rest := by
  obtain ⟨e, he, s, hs, rfl⟩ := mem_leaves.mp ht
  obtain ⟨name, hname, _⟩ := h.dotless e he
  rw [hname, Twig.under_keys] at hover
  obtain ⟨hkey, hrest⟩ := overlap_cons.mp hover
  have hkey : name = key := hkey
  subst hkey
  exact ⟨e.2, h.get?_of_mem (by rw [← hname]; exact he), s, hs, by rw [hname]; rfl, hrest⟩

theorem Entries.exists_overlap_of_get? {es : Entries} {key : String} {n : Node}
    (h : get? key es = some n) : ∃ t ∈ leaves es, Overlap t.keys [key] := by
  obtain ⟨s, ss, hs⟩ := List.exists_cons_of_ne_nil (leaves_ne_nil n)
  have hmem : s ∈ n.leaves := by rw [hs]; exact List.mem_cons_self
  exact ⟨s.under key, mem_leaves_of_get? h hmem,
    Or.inr (List.cons_prefix_cons.mpr ⟨rfl, List.nil_prefix⟩)⟩

theorem Entries.leaves_set_perm {es : Entries} {key : String} {old n : Node} {t : Twig}
    (hold : get? key es = some old) (h : n.leaves.Perm (t :: old.leaves)) :
    (leaves (set key n es)).Perm (t.under key :: leaves es) := by
  obtain ⟨before, after, hes, hset⟩ := exists_leaves_set hold
  have hunder : (n.leaves.map (Twig.under key)).Perm
      (t.under key :: old.leaves.map (Twig.under key)) := h.map (Twig.under key)
  rw [hset, hes]
  exact ((hunder.append_left before).trans List.perm_middle).append_right after

theorem Node.exists_entries {n : Node} (h : ∀ t ∈ n.leaves, t.keys ≠ []) :
    ∃ es, n = mapping es ∧ n.leaves = Entries.leaves es := by
  by_cases hplain : ∃ es, n = mapping es
  · obtain ⟨es, rfl⟩ := hplain
    refine ⟨es, rfl, leaves_mapping ?_⟩
    rintro rfl
    exact h ⟨[], mapping []⟩ (by simp) rfl
  · have hleaf := leaves_of_not_mapping fun es hes => hplain ⟨es, hes⟩
    exact absurd rfl (h ⟨[], n⟩ (by simp [hleaf]))

namespace WriteStep

variable {value : Node} {append : Bool} {keys : List String} {n : Node} {w : Written}

/-- What a leaf catches is reported at the shorter of the two lists of keys. -/
theorem clash_of_catches (h : WriteStep value append keys n w) (happend : append = false)
    (hn : n.WellKeyed) {t : Twig} (ht : t ∈ n.leaves) (hcatches : t.Catches keys) :
    ∃ kind, w.clash = some ⟨shorterOf t.keys keys, kind⟩ := by
  induction h generalizing t with
  | @replaced keys n hkeys hmap hnull =>
      have hleaf : n.IsLeaf := leaves_of_not_mapping (ne_mapping hmap)
      obtain rfl := hleaf.eq_of_mem ht
      refine ⟨.leafReplaced, ?_⟩
      rw [shorterOf_nil]
      rcases hcatches with hbelow | ⟨_, _, hsolid⟩
      · exact absurd (List.prefix_nil.mp hbelow) hkeys
      · exact if_neg (by simp [hsolid])
  | @added key es hget rest =>
      obtain ⟨inner, hinner, _⟩ :=
        Entries.get?_of_overlap hn.named (hcatches.mem_entries ht) hcatches.overlap
      rw [hget] at hinner
      simp at hinner
  | joined htrue => rw [happend] at htrue; simp at htrue
  | @displaced key es present hget _ =>
      obtain ⟨inner, _, s, _, rfl, _⟩ :=
        Entries.get?_of_overlap hn.named (hcatches.mem_entries ht) hcatches.overlap
      refine ⟨if present.isMapping then .subtreeReplaced else .overwritten, ?_⟩
      rw [Twig.under_keys, shorterOf_cons, shorterOf_nil_right]
  | @inside key rest es inner w hget hrest hinner ih =>
      obtain ⟨_, hsame, s, hs, rfl, _⟩ :=
        Entries.get?_of_overlap hn.named (hcatches.mem_entries ht) hcatches.overlap
      rw [hget, Option.some.injEq] at hsame
      subst hsame
      obtain ⟨kind, hclash⟩ :=
        ih (hn.value (Entries.mem_of_get? hget)) hs (Twig.catches_under.mp hcatches)
      refine ⟨kind, ?_⟩
      rw [hclash, Twig.under_keys, shorterOf_cons]
      rfl

/-- A write that overlaps with no leaf meets nothing and adds a leaf. -/
theorem leaves_of_apart {es : Entries} (h : WriteStep value append keys (mapping es) w)
    (hes : (mapping es).WellKeyed) (hkeys : ∀ key ∈ keys, Path.Dotless key)
    (hvalue : (value.fresh append).WellKeyed)
    (hleaf : (value.fresh append).IsLeaf)
    (hapart : ∀ t ∈ Entries.leaves es, ¬ Overlap t.keys keys) :
    ∃ fs, w = ⟨mapping fs, none⟩ ∧ (mapping fs).WellKeyed ∧
      (Entries.leaves fs).Perm (⟨keys, value.fresh append⟩ :: Entries.leaves es) := by
  generalize hn : mapping es = n at h
  induction h generalizing es with
  | replaced _ hmap => subst hn; simp [isMapping] at hmap
  | @added key gs hget rest =>
      obtain rfl := Node.mapping.inj hn
      have hrest : ∀ k ∈ rest, Path.Dotless k := fun k hk => hkeys k (List.mem_cons_of_mem _ hk)
      have hkey := hkeys key List.mem_cons_self
      refine ⟨_, rfl, hes.append_new hkey hget (hvalue.chain hrest), ?_⟩
      rw [Entries.leaves_append, Entries.leaves_singleton, leaves_chain, hleaf]
      refine (List.perm_append_singleton _ _).trans ?_
      rw [Twig.beneath, List.append_nil]
      rfl
  | joined _ hget _ | displaced hget _ =>
      obtain rfl := Node.mapping.inj hn
      obtain ⟨t, ht, hover⟩ := Entries.exists_overlap_of_get? hget
      exact absurd hover (hapart t ht)
  | @inside key rest gs inner w hget hrest hinner ih =>
      obtain rfl := Node.mapping.inj hn
      have hbelow : ∀ s ∈ inner.leaves, ¬ Overlap s.keys rest := fun s hs hover =>
        hapart _ (Entries.mem_leaves_of_get? hget hs) (overlap_cons.mpr ⟨rfl, hover⟩)
      obtain ⟨hs, rfl, hleaves⟩ := Node.exists_entries (n := inner) fun s hs hnil =>
        hbelow s hs (hnil ▸ overlap_nil rest)
      obtain ⟨fs, rfl, hfs, hperm⟩ := ih (hes.value (Entries.mem_of_get? hget))
        (fun k hk => hkeys k (List.mem_cons_of_mem _ hk))
        (fun t ht => hbelow t (hleaves ▸ ht)) rfl
      have hne : fs ≠ [] := by
        rintro rfl
        simpa using hperm.length_eq
      refine ⟨_, rfl, hes.set_old hget hfs, ?_⟩
      refine Entries.leaves_set_perm hget (t := ⟨rest, value.fresh append⟩) ?_
      rw [leaves_mapping hne, hleaves]
      exact hperm

end WriteStep

/-! ## A run of writes -/

/-- Whether the leaves of a mapping's entries are the writes. -/
structure Holds (es : Entries) (ws : List Write) : Prop where
  keyed : (mapping es).WellKeyed
  leaves : (Entries.leaves es).Perm (ws.map Write.toTwig)

namespace Holds

theorem nil : Holds [] [] := ⟨.mapping .nil (by simp), by simp⟩

variable {es : Entries} {ws : List Write}

theorem solid (h : Holds es ws) (hws : ∀ w ∈ ws, w.IsSolid) (hes : es ≠ []) :
    (mapping es).Solid where
  keyed := h.keyed
  values t ht := by
    rw [leaves_mapping hes] at ht
    obtain ⟨w, hw, rfl⟩ := List.mem_map.mp (h.leaves.mem_iff.mp ht)
    exact (hws w hw).2

theorem walkable (h : Holds es ws) (hws : ∀ w ∈ ws, w.IsSolid) : (mapping es).Walkable := by
  by_cases hes : es = []
  · subst hes
    exact walkable_empty
  · exact (h.solid hws hes).walkable

theorem mem_leaves (h : Holds es ws) {w : Write} (hw : w ∈ ws) :
    w.toTwig ∈ Entries.leaves es :=
  h.leaves.mem_iff.mpr (List.mem_map_of_mem hw)

theorem at? (h : Holds es ws) {w : Write} (hw : w ∈ ws) :
    (mapping es).at? (Path.segments w.path) = some w.value :=
  h.keyed.at?_of_mem_leaves w.toTwig (Entries.mem_leaves_mapping (h.mem_leaves hw))

theorem write_apart (h : Holds es ws) (hws : ∀ w ∈ ws, w.IsSolid) {w : Write}
    (hw : w.IsSolid) (hapart : ∀ d ∈ ws, ¬ d.Conflicts w) :
    ∃ fs, (mapping es).write w = some (mapping fs, none) ∧ Holds fs (ws ++ [w]) := by
  obtain ⟨written, hwritten, hstep⟩ :=
    exists_writeStep w.value w.append (Path.segments_ne_nil w.path) (h.walkable hws)
  have hkeyed : w.value.WellKeyed := .leaf (ne_mapping hw.2.1)
  rw [hw.1] at hstep
  obtain ⟨fs, rfl, hfs, hperm⟩ := hstep.leaves_of_apart h.keyed
    (fun key hkey => Path.dotless_of_mem_segments hkey) hkeyed hw.isLeaf (by
      intro t ht hover
      obtain ⟨d, hd, rfl⟩ := List.mem_map.mp (h.leaves.mem_iff.mp ht)
      exact hapart d hd hover)
  refine ⟨fs, ?_, hfs, ?_⟩
  · rw [write_eq, hwritten]
    rfl
  · rw [List.map_append]
    exact (hperm.trans (h.leaves.cons _)).trans (List.perm_append_singleton _ _).symm

theorem write_conflict (h : Holds es ws) (hws : ∀ w ∈ ws, w.IsSolid) {w d : Write}
    (hw : w.IsSolid) (hd : d ∈ ws) (hconflict : d.Conflicts w) :
    ∃ node kind, (mapping es).write w = some (node, some ⟨d.shorterPath w, kind⟩) := by
  obtain ⟨written, hwritten, hstep⟩ :=
    exists_writeStep w.value w.append (Path.segments_ne_nil w.path) (h.walkable hws)
  have hcatches : d.toTwig.Catches (Path.segments w.path) := by
    rcases hconflict with habove | hbelow
    · exact Or.inr ⟨habove, (hws d hd).2⟩
    · exact Or.inl hbelow
  obtain ⟨kind, hclash⟩ := hstep.clash_of_catches hw.1 h.keyed
    (Entries.mem_leaves_mapping (h.mem_leaves hd)) hcatches
  refine ⟨written.node, kind, ?_⟩
  rw [write_eq, hwritten, Option.map_some, hclash]
  show some (_, some (Collision.mk (Path.ofSegments (shorterOf _ _)) kind)) = _
  rw [← Write.ofSegments_shorterOf]
  rfl

/-- Writes apart from each other and from those before all go through, and what
follows them starts from there. -/
theorem writeAll_append {us : List Write} (h : Holds es ws)
    (hsolid : ∀ w ∈ ws ++ us, w.IsSolid) (hapart : Write.Apart (ws ++ us))
    (policy : CollisionPolicy) :
    ∃ fs, Holds fs (ws ++ us) ∧ ∀ vs,
      (mapping es).writeAll policy (us ++ vs) = (mapping fs).writeAll policy vs := by
  induction us generalizing es ws with
  | nil => exact ⟨es, by simpa using h, fun vs => rfl⟩
  | cons w us ih =>
      have hnew : ∀ d ∈ ws, ¬ d.Conflicts w := fun d hd =>
        (List.pairwise_append.mp hapart).2.2 d hd w List.mem_cons_self
      obtain ⟨gs, hwrite, hgs⟩ := h.write_apart
        (fun d hd => hsolid d (List.mem_append_left _ hd)) (hsolid w (by simp)) hnew
      have hassoc : ws ++ w :: us = (ws ++ [w]) ++ us := by simp
      rw [hassoc] at hsolid hapart ⊢
      obtain ⟨fs, hfs, hrun⟩ := ih hgs hsolid hapart
      refine ⟨fs, hfs, fun vs => ?_⟩
      rw [List.cons_append, Node.writeAll, hwrite]
      exact hrun vs

end Holds

/-- Among writes that are not all apart there is a first one in conflict with
one before it. -/
theorem Write.exists_first_conflict {ws : List Write} (h : ¬ Apart ws) :
    ∃ before w after, ws = before ++ w :: after ∧ Apart before ∧
      ∃ earlier ∈ before, earlier.Conflicts w := by
  -- from the end, so that a conflict among the writes before comes first
  induction ws using List.reverseRecOn with
  | nil => exact absurd List.Pairwise.nil h
  | append_singleton ws w ih =>
      by_cases hws : Apart ws
      · refine ⟨ws, w, [], rfl, hws, ?_⟩
        by_contra hnone
        refine h (List.pairwise_append.mpr ⟨hws, List.pairwise_singleton _ _, ?_⟩)
        intro d hd x hx hconflict
        rw [List.mem_singleton.mp hx] at hconflict
        exact hnone ⟨d, hd, hconflict⟩
      · obtain ⟨before, first, after, rfl, hbefore, hearlier⟩ := ih hws
        exact ⟨before, first, after ++ [w], by simp, hbefore, hearlier⟩

theorem rebuild_apart {ws : List Write} (hsolid : ∀ w ∈ ws, w.IsSolid)
    (hapart : Write.Apart ws) (policy : CollisionPolicy) :
    ∃ es, rebuild policy ws = .ok (mapping es, []) ∧ Holds es ws := by
  obtain ⟨es, hes, hrun⟩ := Holds.nil.writeAll_append hsolid hapart policy
  refine ⟨es, ?_, hes⟩
  rw [rebuild, ← List.append_nil ws, hrun, Node.writeAll]

theorem rebuild_conflict {before after : List Write} {w earlier : Write}
    (hsolid : ∀ x ∈ before ++ w :: after, x.IsSolid) (hapart : Write.Apart before)
    (hearlier : earlier ∈ before) (hconflict : earlier.Conflicts w) :
    rebuild .error (before ++ w :: after) = .error (.collision (earlier.shorterPath w)) := by
  have hbefore : ∀ x ∈ before, x.IsSolid := fun x hx => hsolid x (List.mem_append_left _ hx)
  obtain ⟨es, hes, hrun⟩ := Holds.nil.writeAll_append hbefore hapart .error
  obtain ⟨node, kind, hwrite⟩ :=
    hes.write_conflict hbefore (hsolid w (by simp)) hearlier hconflict
  rw [rebuild, hrun, Node.writeAll, hwrite]

namespace Migration

/-- Under the strict policy a rebuild from assignments of values that are, under
any tags, neither null nor mappings fails exactly if two of them conflict, and
then at the shorter path of the first conflict. Otherwise the document has each
value at its path, and no other leaves. -/
theorem materialize_error_iff_conflict {writes : List Write} (report : Report)
    (hsolid : ∀ w ∈ writes, w.IsSolid) :
    ((∃ failure, materialize .error writes report = .error failure) ↔ ¬ Write.Apart writes) ∧
    (∀ before w after earlier, writes = before ++ w :: after → Write.Apart before →
      earlier ∈ before → earlier.Conflicts w →
      materialize .error writes report = .error (.collision (earlier.shorterPath w))) ∧
    (Write.Apart writes →
      ∃ es, materialize .error writes report = .ok (mapping es, report) ∧
        (∀ w ∈ writes, (mapping es).at? (Path.segments w.path) = some w.value) ∧
        (Entries.leaves es).Perm (writes.map Write.toTwig)) := by
  have hconflict : ∀ before w after earlier, writes = before ++ w :: after →
      Write.Apart before → earlier ∈ before → earlier.Conflicts w →
      materialize .error writes report = .error (.collision (earlier.shorterPath w)) := by
    rintro before w after earlier rfl hbefore hearlier hconflict
    exact materialize_error (rebuild_conflict hsolid hbefore hearlier hconflict) report
  have happart : Write.Apart writes →
      ∃ es, materialize .error writes report = .ok (mapping es, report) ∧ Holds es writes := by
    intro hapart
    obtain ⟨es, hrun, hes⟩ := rebuild_apart hsolid hapart .error
    refine ⟨es, ?_, hes⟩
    rw [materialize_ok hrun, List.append_nil]
  refine ⟨⟨?_, ?_⟩, hconflict, ?_⟩
  · rintro ⟨failure, hfailure⟩ hapart
    obtain ⟨es, hok, _⟩ := happart hapart
    rw [hok] at hfailure
    simp at hfailure
  · intro h
    obtain ⟨before, w, after, hsplit, hbefore, earlier, hearlier, hconf⟩ :=
      Write.exists_first_conflict h
    exact ⟨_, hconflict before w after earlier hsplit hbefore hearlier hconf⟩
  · intro hapart
    obtain ⟨es, hok, hes⟩ := happart hapart
    exact ⟨es, hok, fun w hw => hes.at? hw, hes.leaves⟩

/-- A leaf after a subtree at the same path, behind a write that is apart. -/
theorem materialize_error_leaf_over_subtree :
    (∀ w ∈ ([⟨"a.b", bool true, false⟩, ⟨"c", tagged ⟨"t"⟩ (text "x"), false⟩,
      ⟨"a", sequence [], false⟩] : List Write), w.IsSolid) ∧
    materialize .error [⟨"a.b", bool true, false⟩, ⟨"c", tagged ⟨"t"⟩ (text "x"), false⟩,
      ⟨"a", sequence [], false⟩] {} = .error (.collision "a") := by
  have hsolid : ∀ w ∈ ([⟨"a.b", bool true, false⟩, ⟨"c", tagged ⟨"t"⟩ (text "x"), false⟩,
      ⟨"a", sequence [], false⟩] : List Write), w.IsSolid := by
    simp [Write.IsSolid, isMapping, isNull, untag]
  refine ⟨hsolid, ?_⟩
  exact (materialize_error_iff_conflict {} hsolid).2.1
    [⟨"a.b", bool true, false⟩, ⟨"c", tagged ⟨"t"⟩ (text "x"), false⟩] _ []
    ⟨"a.b", bool true, false⟩ rfl (by decide) List.mem_cons_self (by decide)

end Migration

end Trialbook

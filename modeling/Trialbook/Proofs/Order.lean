import Trialbook.Proofs.Growth
import Mathlib.Data.List.Sort

/-!
# Collisions and the order of writes

Under the strict policy, whether a rebuild fails may depend on the order of its
writes. The reason is a leaf that gives way: a null or an empty mapping becomes
a mapping without notice when a later path leads through it, but it collides
with what stands below its path if it comes later itself.

`Write.Blocks` is the relation between an earlier write and a later one that
makes a rebuild fail, and it is not symmetric. `Grown` ties it to the tree: what
is left of every write is a leaf at its path or below. So a rebuild fails
exactly when some write blocks a later one (`rebuild_error_iff`), and the rest
is about lists. Writes that block each other in both orders fail in every
order. Without them, the writes go through from the shortest path to the
longest, and fail as soon as one stands before a leaf that would have given way
to it.
-/

namespace Trialbook

open Node

instance (t : Twig) (keys : List String) : Decidable (t.Catches keys) :=
  inferInstanceAs (Decidable (_ ∨ _))

namespace Write

/-- An assignment of a leaf outside of any tag. -/
structure IsPlain (w : Write) : Prop where
  assigns : w.append = false
  leaf : w.value.IsLeaf
  untagged : w.value.isTagged = false

/-- Whether a write makes a later one collide. -/
def Blocks (earlier later : Write) : Prop := earlier.toTwig.Catches (Path.segments later.path)

instance (a b : Write) : Decidable (a.Blocks b) := inferInstanceAs (Decidable (Twig.Catches _ _))

/-- Whether two writes collide in either order. -/
def Collides (a b : Write) : Prop := a.Blocks b ∧ b.Blocks a

instance (a b : Write) : Decidable (a.Collides b) := inferInstanceAs (Decidable (_ ∧ _))

/-- Whether a null or an empty mapping gives way to a write below its path. -/
def GivesWay (a b : Write) : Prop :=
  (a.value.isMapping || a.value.isNull) = true ∧
    Path.segments a.path <+: Path.segments b.path ∧
    Path.segments a.path ≠ Path.segments b.path

instance (a b : Write) : Decidable (a.GivesWay b) := inferInstanceAs (Decidable (_ ∧ _ ∧ _))

theorem blocks_iff {a b : Write} :
    a.Blocks b ↔ Path.segments b.path <+: Path.segments a.path ∨
      Path.segments a.path <+: Path.segments b.path ∧
        (a.value.isMapping || a.value.isNull) = false := by
  rw [Bool.or_eq_false_iff]
  exact Iff.rfl

theorem Collides.symm {a b : Write} (h : a.Collides b) : b.Collides a := ⟨h.2, h.1⟩

theorem GivesWay.blocks {a b : Write} (h : a.GivesWay b) : b.Blocks a :=
  blocks_iff.mpr (Or.inl h.2.1)

/-- What blocks a write is blocked by it, unless it is further down and the
other gives way. -/
theorem Blocks.collides_or_givesWay {a b : Write} (h : a.Blocks b) :
    a.Collides b ∨ b.GivesWay a := by
  rcases blocks_iff.mp h with hbelow | ⟨habove, _⟩
  · by_cases hsame : Path.segments b.path = Path.segments a.path
    · exact Or.inl ⟨h, blocks_iff.mpr (Or.inl (hsame ▸ List.prefix_rfl))⟩
    · cases hvacant : b.value.isMapping || b.value.isNull with
      | true => exact Or.inr ⟨hvacant, hbelow, hsame⟩
      | false => exact Or.inl ⟨h, blocks_iff.mpr (Or.inr ⟨hbelow, hvacant⟩)⟩
  · exact Or.inl ⟨h, blocks_iff.mpr (Or.inl habove)⟩

end Write

/-! ## One write -/

theorem Entries.mem_leaves_of_keys_ne_nil {t : Twig} {es : Entries} (h : t ∈ (mapping es).leaves)
    (hkeys : t.keys ≠ []) : t ∈ leaves es := by
  by_cases hes : es = []
  · subst hes
    rw [leaves_mapping_nil, List.mem_singleton] at h
    exact absurd (by rw [h]) hkeys
  · rwa [leaves_mapping hes] at h

theorem Entries.mem_leaves_set_or_under {key : String} {old : Node} {es : Entries}
    (hold : get? key es = some old) (n : Node) {t : Twig} (h : t ∈ leaves es) :
    t ∈ leaves (set key n es) ∨ ∃ s ∈ old.leaves, t = s.under key := by
  obtain ⟨before, after, hes, hset⟩ := exists_leaves_set hold
  rw [hes] at h
  rw [hset]
  simp only [List.mem_append, List.mem_map] at h ⊢
  rcases h with (h | ⟨s, hs, rfl⟩) | h
  · exact Or.inl (Or.inl (Or.inl h))
  · exact Or.inr ⟨s, hs, rfl⟩
  · exact Or.inl (Or.inr h)

namespace WriteStep

variable {value : Node} {append : Bool} {keys : List String} {n : Node} {w : Written}

/-- Every collision is with a leaf. -/
theorem exists_catches (h : WriteStep value append keys n w) (hclash : w.clash ≠ none) :
    ∃ t ∈ n.leaves, t.Catches keys := by
  induction h with
  | @replaced keys n hkeys hmap hnull =>
      refine ⟨⟨[], n⟩, ?_, Or.inr ⟨List.nil_prefix, hmap, ?_⟩⟩
      · rw [leaves_of_not_mapping (ne_mapping hmap)]
        exact List.mem_cons_self
      · by_contra hn
        exact hclash (if_pos (by simpa using hn))
  | added | joined => exact absurd rfl hclash
  | @displaced key es present hget hover =>
      obtain ⟨s, ss, hs⟩ := List.exists_cons_of_ne_nil (leaves_ne_nil present)
      have hmem : s ∈ present.leaves := by rw [hs]; exact List.mem_cons_self
      refine ⟨s.under key, ?_, Or.inl ?_⟩
      · exact Entries.mem_leaves_mapping (Entries.mem_leaves_of_get? hget hmem)
      · exact List.cons_prefix_cons.mpr ⟨rfl, List.nil_prefix⟩
  | @inside key rest es inner w hget hrest hinner ih =>
      have hbelow : w.clash ≠ none := fun hnone => hclash (by rw [hnone]; rfl)
      obtain ⟨s, hs, hcatches⟩ := ih hbelow
      exact ⟨s.under key, Entries.mem_leaves_mapping (Entries.mem_leaves_of_get? hget hs),
        Twig.catches_under.mpr hcatches⟩

/-- An assignment that displaces nothing adds its leaf, and those that go are on
the way to it. -/
theorem leaves_of_unclashed (h : WriteStep value append keys n w) (happend : append = false)
    (hclash : w.clash = none) (hvalue : value.IsLeaf) :
    ⟨keys, value⟩ ∈ w.node.leaves ∧ ∀ t ∈ n.leaves, t ∈ w.node.leaves ∨ t.keys <+: keys := by
  subst happend
  have hfresh : value.fresh false = value := rfl
  induction h with
  | @replaced keys n hkeys hmap hnull =>
      have hleaf : n.IsLeaf := leaves_of_not_mapping (ne_mapping hmap)
      refine ⟨?_, ?_⟩
      · rw [hfresh, leaves_chain, hvalue, List.map_singleton, Twig.beneath, List.append_nil]
        exact List.mem_cons_self
      · intro t ht
        rw [hleaf.eq_of_mem ht]
        exact Or.inr List.nil_prefix
  | @added key es hget rest =>
      rw [hfresh, leaves_mapping (by simp), Entries.leaves_append, Entries.leaves_singleton,
        leaves_chain, hvalue, List.map_singleton, List.map_singleton, Twig.beneath,
        List.append_nil]
      refine ⟨List.mem_append_right _ List.mem_cons_self, ?_⟩
      intro t ht
      by_cases hes : es = []
      · subst hes
        rw [leaves_mapping_nil, List.mem_singleton] at ht
        rw [ht]
        exact Or.inr List.nil_prefix
      · rw [leaves_mapping hes] at ht
        exact Or.inl (List.mem_append_left _ ht)
  | joined htrue => simp at htrue
  | displaced => simp at hclash
  | @inside key rest es inner w hget hrest hinner ih =>
      obtain ⟨hnew, hold⟩ := ih (Option.map_eq_none_iff.mp hclash)
      have hset := Entries.get?_set_self key w.node es
      have hes : es ≠ [] := by
        rintro rfl
        simp [Entries.get?] at hget
      rw [leaves_mapping (Entries.set_ne_nil _ _ _), leaves_mapping hes]
      refine ⟨Entries.mem_leaves_of_get? hset hnew, ?_⟩
      intro t ht
      rcases Entries.mem_leaves_set_or_under hget w.node ht with ht | ⟨s, hs, rfl⟩
      · exact Or.inl ht
      · rcases hold s hs with hs | hs
        · exact Or.inl (Entries.mem_leaves_of_get? hset hs)
        · exact Or.inr (List.cons_prefix_cons.mpr ⟨rfl, hs⟩)

end WriteStep

/-! ## A run of writes -/

/-- What is left of writes that did not collide. Every leaf is one of them, and
each of them has left a leaf at its path or below, its own unless it was to give
way. -/
structure Grown (es : Entries) (ws : List Write) : Prop where
  keyed : (mapping es).WellKeyed
  made : ∀ t ∈ Entries.leaves es, ∃ w ∈ ws, t = w.toTwig
  kept : ∀ w ∈ ws, ∃ t ∈ Entries.leaves es, Path.segments w.path <+: t.keys ∧
    ((w.value.isMapping || w.value.isNull) = false → t = w.toTwig)

namespace Grown

theorem nil : Grown [] [] := ⟨.mapping .nil (by simp), by simp, by simp⟩

variable {es : Entries} {ws : List Write}

theorem walkable (h : Grown es ws) (hws : ∀ w ∈ ws, w.IsPlain) : (mapping es).Walkable := by
  by_cases hes : es = []
  · subst hes
    exact walkable_empty
  · intro t ht htag
    rw [leaves_mapping hes] at ht
    obtain ⟨w, hw, rfl⟩ := h.made t ht
    exact absurd htag (by simp [Write.toTwig, (hws w hw).untagged])

theorem write_blocked (h : Grown es ws) (hws : ∀ w ∈ ws, w.IsPlain) {w d : Write}
    (hw : w.IsPlain) (hd : d ∈ ws) (hblocks : d.Blocks w) :
    ∃ node c, (mapping es).write w = some (node, some c) := by
  obtain ⟨written, hwritten, hstep⟩ :=
    exists_writeStep w.value w.append (Path.segments_ne_nil w.path) (h.walkable hws)
  obtain ⟨t, ht, hbelow, hown⟩ := h.kept d hd
  have hcatches : t.Catches (Path.segments w.path) := by
    rcases Write.blocks_iff.mp hblocks with hup | ⟨hdown, hsolid⟩
    · exact Or.inl (hup.trans hbelow)
    · rw [hown hsolid]
      exact Or.inr ⟨hdown, Bool.or_eq_false_iff.mp hsolid⟩
  obtain ⟨kind, hclash⟩ := hstep.clash_of_catches hw.assigns h.keyed
    (Entries.mem_leaves_mapping ht) hcatches
  refine ⟨written.node, ⟨Path.ofSegments (shorterOf t.keys (Path.segments w.path)), kind⟩, ?_⟩
  rw [write_eq, hwritten, Option.map_some, hclash]
  rfl

/-- A write that collides with nothing. What it makes go is on its way, so it
gave way to the write, whose leaf then stands for it. -/
theorem grow (h : Grown es ws) {w : Write} (hw : w.IsPlain) {written : Written} {fs : Entries}
    (hstep : WriteStep w.value w.append (Path.segments w.path) (mapping es) written)
    (hclash : written.clash = none) (hfs : written.node = mapping fs)
    (hkeyed : (mapping fs).WellKeyed) (hfree : ∀ d ∈ ws, ¬ d.Blocks w) :
    Grown fs (ws ++ [w]) := by
  have hkeys := Path.segments_ne_nil w.path
  obtain ⟨hnew, hold⟩ := hstep.leaves_of_unclashed hw.assigns hclash hw.leaf
  rw [hfs] at hnew hold
  have hentries := Entries.mem_leaves_of_keys_ne_nil hnew hkeys
  refine ⟨hkeyed, ?_, ?_⟩
  · intro t ht
    have hne := keys_ne_nil_of_mem ht
    have hmem : t ∈ written.node.leaves := by rw [hfs]; exact Entries.mem_leaves_mapping ht
    rcases hstep.mem_leaves hmem with hmem | ⟨s, hs, rfl⟩ | ⟨happend, _⟩
    · obtain ⟨d, hd, rfl⟩ := h.made t (Entries.mem_leaves_of_keys_ne_nil hmem hne)
      exact ⟨d, List.mem_append_left _ hd, rfl⟩
    · rw [hw.leaf.fresh w.append, List.mem_singleton] at hs
      refine ⟨w, List.mem_append_right _ List.mem_cons_self, ?_⟩
      rw [hs, hw.assigns, Twig.beneath, List.append_nil]
      rfl
    · rw [hw.assigns] at happend
      simp at happend
  · intro d hd
    rcases List.mem_append.mp hd with hd | hd
    · obtain ⟨t, ht, hbelow, hown⟩ := h.kept d hd
      rcases hold t (Entries.mem_leaves_mapping ht) with hstays | hway
      · exact ⟨t, Entries.mem_leaves_of_keys_ne_nil hstays (keys_ne_nil_of_mem ht), hbelow, hown⟩
      · refine ⟨_, hentries, hbelow.trans hway, ?_⟩
        -- a leaf that does not give way would have caught the write
        intro hsolid
        rw [hown hsolid] at hway
        exact absurd (Write.blocks_iff.mpr (Or.inr ⟨hway, hsolid⟩)) (hfree d hd)
    · rw [List.mem_singleton.mp hd]
      exact ⟨_, hentries, List.prefix_rfl, fun _ => rfl⟩

theorem write_free (h : Grown es ws) (hws : ∀ w ∈ ws, w.IsPlain) {w : Write} (hw : w.IsPlain)
    (hfree : ∀ d ∈ ws, ¬ d.Blocks w) :
    ∃ fs, (mapping es).write w = some (mapping fs, none) ∧ Grown fs (ws ++ [w]) := by
  have hkeys := Path.segments_ne_nil w.path
  obtain ⟨written, hwritten, hstep⟩ :=
    exists_writeStep w.value w.append hkeys (h.walkable hws)
  -- a collision would be with a leaf, and every leaf is one of the writes
  have hclash : written.clash = none := by
    by_contra hclash
    obtain ⟨t, ht, hcatches⟩ := hstep.exists_catches hclash
    obtain ⟨key, rest, hcons⟩ := List.exists_cons_of_ne_nil hkeys
    rw [hcons] at hcatches
    obtain ⟨d, hd, rfl⟩ := h.made t (hcatches.mem_entries ht)
    exact hfree d hd (by rw [Write.Blocks, hcons]; exact hcatches)
  obtain ⟨fs, hfs⟩ := hstep.node_eq_mapping
  have hkeyed : (mapping fs).WellKeyed := by
    rw [← hfs]
    exact (growth_of_writeAt hkeys hwritten).wellKeyed h.keyed hw.leaf.wellKeyed
      fun key hkey => Path.dotless_of_mem_segments hkey
  refine ⟨fs, ?_, h.grow hw hstep hclash hfs hkeyed hfree⟩
  rw [write_eq, hwritten, Option.map_some, hclash, hfs]
  rfl

/-- A run fails exactly if, with the writes before it, some write blocks a later
one. -/
theorem writeAll_error_iff {us : List Write} (h : Grown es ws)
    (hplain : ∀ w ∈ ws ++ us, w.IsPlain) (hws : ws.Pairwise fun a b => ¬ a.Blocks b) :
    (∃ failure, (mapping es).writeAll .error us = .error failure) ↔
      ¬ (ws ++ us).Pairwise fun a b => ¬ a.Blocks b := by
  induction us generalizing es ws with
  | nil => simp [Node.writeAll, hws]
  | cons u us ih =>
      have hbefore : ∀ w ∈ ws, w.IsPlain := fun w hw => hplain w (List.mem_append_left _ hw)
      have hu : u.IsPlain := hplain u (by simp)
      by_cases hfree : ∀ d ∈ ws, ¬ d.Blocks u
      · obtain ⟨fs, hwrite, hfs⟩ := h.write_free hbefore hu hfree
        have hnext : (ws ++ [u]).Pairwise fun a b => ¬ a.Blocks b := by
          refine List.pairwise_append.mpr ⟨hws, List.pairwise_singleton _ _, ?_⟩
          intro d hd x hx
          rw [List.mem_singleton.mp hx]
          exact hfree d hd
        have hassoc : ws ++ u :: us = (ws ++ [u]) ++ us := by simp
        rw [hassoc] at hplain ⊢
        rw [← ih hfs hplain hnext, Node.writeAll, hwrite]
      · push Not at hfree
        obtain ⟨d, hd, hblocks⟩ := hfree
        obtain ⟨node, c, hwrite⟩ := h.write_blocked hbefore hu hd hblocks
        refine iff_of_true ⟨.collision c.path, by rw [Node.writeAll, hwrite]⟩ ?_
        intro hpairwise
        exact (List.pairwise_append.mp hpairwise).2.2 d hd u List.mem_cons_self hblocks

end Grown

theorem rebuild_error_iff {ws : List Write} (hplain : ∀ w ∈ ws, w.IsPlain) :
    (∃ failure, rebuild .error ws = .error failure) ↔
      ¬ ws.Pairwise fun a b => ¬ a.Blocks b :=
  Grown.nil.writeAll_error_iff hplain .nil

/-! ## Every order -/

namespace Write

theorem pairwise_collides_perm {ws vs : List Write} (h : ws.Perm vs) :
    (ws.Pairwise fun a b => ¬ a.Collides b) ↔ vs.Pairwise fun a b => ¬ a.Collides b :=
  h.pairwise_iff fun hab hba => hab hba.symm

/-- If nothing gives way, writes block each other in both orders or in none. -/
theorem pairwise_blocks_iff {ws : List Write} (h : ∀ a ∈ ws, ∀ b ∈ ws, ¬ a.GivesWay b) :
    (ws.Pairwise fun a b => ¬ a.Blocks b) ↔ ws.Pairwise fun a b => ¬ a.Collides b := by
  refine ⟨List.Pairwise.imp fun hab hcollides => hab hcollides.1, ?_⟩
  refine List.Pairwise.imp_of_mem fun ha hb hab hblocks => ?_
  rcases hblocks.collides_or_givesWay with hcollides | hway
  · exact hab hcollides
  · exact h _ hb _ ha hway

/-- From the shortest path to the longest, writes block each other only if they
do so in both orders. -/
theorem exists_perm_pairwise {ws : List Write} (h : ws.Pairwise fun a b => ¬ a.Collides b) :
    ∃ vs, ws.Perm vs ∧ vs.Pairwise fun a b => ¬ a.Blocks b := by
  let shorter (a b : Write) : Prop :=
    (Path.segments a.path).length ≤ (Path.segments b.path).length
  have hsorted : (ws.insertionSort shorter).Pairwise shorter :=
    haveI : Std.Total shorter := ⟨fun a b => Nat.le_total _ _⟩
    haveI : IsTrans Write shorter := ⟨fun a b c => Nat.le_trans⟩
    List.pairwise_insertionSort shorter ws
  have hperm := List.perm_insertionSort shorter ws
  refine ⟨ws.insertionSort shorter, hperm.symm, ?_⟩
  refine (hsorted.and ((pairwise_collides_perm hperm.symm).mp h)).imp ?_
  rintro a b ⟨hlength, hcollides⟩ hblocks
  rcases hblocks.collides_or_givesWay with hboth | ⟨_, hbelow, hne⟩
  · exact hcollides hboth
  · exact hne (hbelow.eq_of_length_le hlength)

theorem exists_perm_cons_cons {ws : List Write} {a b : Write} (ha : a ∈ ws) (hb : b ∈ ws)
    (hne : a ≠ b) : ∃ vs, ws.Perm (b :: a :: vs) := by
  obtain ⟨before, after, rfl⟩ := List.append_of_mem hb
  have hrest : a ∈ before ++ after := by
    rcases List.mem_append.mp ha with ha | ha
    · exact List.mem_append_left _ ha
    · rcases List.mem_cons.mp ha with rfl | ha
      · exact absurd rfl hne
      · exact List.mem_append_right _ ha
  obtain ⟨first, last, hsplit⟩ := List.append_of_mem hrest
  refine ⟨first ++ last, List.perm_middle.trans (.cons b ?_)⟩
  rw [hsplit]
  exact List.perm_middle

end Write

namespace Migration

/-- Whether a rebuild under the strict policy fails is the same for every order
of its writes exactly in two cases: no null and no empty mapping is written
above the path of another write, or two of the writes collide in either
order. -/
theorem materialize_error_order_iff {writes : List Write} (report : Report)
    (hplain : ∀ w ∈ writes, w.IsPlain) :
    (∀ others, writes.Perm others →
      ((∃ failure, materialize .error writes report = .error failure) ↔
        ∃ failure, materialize .error others report = .error failure)) ↔
      (∀ a ∈ writes, ∀ b ∈ writes, ¬ a.GivesWay b) ∨
        ¬ writes.Pairwise fun a b => ¬ a.Collides b := by
  have hfails : ∀ ws : List Write, (∀ w ∈ ws, w.IsPlain) →
      ((∃ failure, materialize .error ws report = .error failure) ↔
        ¬ ws.Pairwise fun a b => ¬ a.Blocks b) := by
    intro ws hws
    rw [← rebuild_error_iff hws]
    cases hrun : rebuild .error ws with
    | error failure => simp [materialize_error hrun]
    | ok built => simp [materialize_ok hrun]
  have hothers : ∀ {others}, writes.Perm others → ∀ w ∈ others, w.IsPlain :=
    fun hperm w hw => hplain w (hperm.mem_iff.mpr hw)
  constructor
  · intro hsame
    by_contra hneither
    push Not at hneither
    obtain ⟨⟨a, ha, b, hb, hway⟩, hcollides⟩ := hneither
    -- one order goes through, and the other has `b` before the leaf that gives way to it
    obtain ⟨vs, hvs, hruns⟩ := Write.exists_perm_pairwise hcollides
    obtain ⟨us, hus⟩ := Write.exists_perm_cons_cons ha hb fun heq => hway.2.2 (by rw [heq])
    have hends := (not_congr ((hsame vs hvs).trans (hfails vs (hothers hvs)))).mpr (by simpa)
    refine hends ((hsame _ hus).mpr ((hfails _ (hothers hus)).mpr ?_))
    intro hpairwise
    exact (List.pairwise_cons.mp hpairwise).1 a List.mem_cons_self hway.blocks
  · intro hcases others hperm
    rw [hfails writes hplain, hfails others (hothers hperm)]
    rcases hcases with hnone | hcollides
    · have hnone' : ∀ a ∈ others, ∀ b ∈ others, ¬ a.GivesWay b := fun a ha b hb =>
        hnone a (hperm.mem_iff.mpr ha) b (hperm.mem_iff.mpr hb)
      rw [Write.pairwise_blocks_iff hnone, Write.pairwise_blocks_iff hnone',
        Write.pairwise_collides_perm hperm]
    · have hblocks : ∀ ws : List Write, (ws.Pairwise fun a b => ¬ a.Blocks b) →
          ws.Pairwise fun a b => ¬ a.Collides b :=
        fun ws => List.Pairwise.imp fun hab hboth => hab hboth.1
      refine iff_of_true (fun h => hcollides (hblocks _ h)) fun h => hcollides ?_
      exact (Write.pairwise_collides_perm hperm).mpr (hblocks _ h)

/-- A null above another path does no harm next to two writes that collide in
either order. -/
theorem materialize_error_order_collision :
    (∀ w ∈ ([⟨"a", null, false⟩, ⟨"a.b", bool true, false⟩, ⟨"c", text "x", false⟩,
      ⟨"c.d", sequence [], false⟩] : List Write), w.IsPlain) ∧
    ∀ others, ([⟨"a", null, false⟩, ⟨"a.b", bool true, false⟩, ⟨"c", text "x", false⟩,
      ⟨"c.d", sequence [], false⟩] : List Write).Perm others →
      ((∃ failure, materialize .error [⟨"a", null, false⟩, ⟨"a.b", bool true, false⟩,
          ⟨"c", text "x", false⟩, ⟨"c.d", sequence [], false⟩] {} = .error failure) ↔
        ∃ failure, materialize .error others {} = .error failure) := by
  have hplain : ∀ w ∈ ([⟨"a", null, false⟩, ⟨"a.b", bool true, false⟩, ⟨"c", text "x", false⟩,
      ⟨"c.d", sequence [], false⟩] : List Write), w.IsPlain := by
    have hleaf : ∀ (path : String) (n : Node), (∀ es, n ≠ mapping es) → n.isTagged = false →
        Write.IsPlain ⟨path, n, false⟩ :=
      fun path n hn htag => ⟨rfl, leaves_of_not_mapping hn, htag⟩
    intro w hw
    simp only [List.mem_cons, List.not_mem_nil, or_false] at hw
    rcases hw with rfl | rfl | rfl | rfl
    all_goals exact hleaf _ _ (by simp) rfl
  exact ⟨hplain, (materialize_error_order_iff {} hplain).mpr (Or.inr (by decide))⟩

/-- An empty mapping gives way to a write below it, but not the other way
round. -/
theorem materialize_error_order_matters :
    ¬ ∀ writes others : List Write, (∀ w ∈ writes, w.IsPlain) → writes.Perm others →
      ((∃ failure, materialize .error writes {} = .error failure) ↔
        ∃ failure, materialize .error others {} = .error failure) := by
  intro h
  have hplain : ∀ w ∈ ([⟨"a", mapping [], false⟩, ⟨"a.b", bool true, false⟩] : List Write),
      w.IsPlain := by
    intro w hw
    simp only [List.mem_cons, List.not_mem_nil, or_false] at hw
    rcases hw with rfl | rfl
    · exact ⟨rfl, leaves_mapping_nil, rfl⟩
    · exact ⟨rfl, leaves_of_not_mapping (by simp), rfl⟩
  have hruns : materialize .error [⟨"a", mapping [], false⟩, ⟨"a.b", bool true, false⟩] {} =
      .ok (mapping [(text "a", mapping [(text "b", bool true)])], {}) := rfl
  have hfails : materialize .error [⟨"a.b", bool true, false⟩, ⟨"a", mapping [], false⟩] {} =
      .error (.collision "a") := rfl
  obtain ⟨failure, hfailure⟩ := (h _ _ hplain (List.Perm.swap _ _ _)).mpr ⟨_, hfails⟩
  rw [hruns] at hfailure
  simp at hfailure

end Migration

end Trialbook

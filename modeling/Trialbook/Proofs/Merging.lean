import Trialbook.Proofs.Independence

/-!
# The needs of an entry, merged

The needs of a test entry stand in three places of the old layout, below the entry
and below its two phases, and in one of the new. What comes from a phase joins what
is there. What stands below the entry itself is written as it is.

So the needs of the entry itself are never lost (`Keeps.run`), and those of a phase
are lost in one way: if the entry's own come after them. A migration does not do
that without a word (`Keeps.exists_clash`).
-/

namespace Trialbook

open Node Rule
open Rule.Bundled (sentTo fragment lanes)

/-! ## What is kept at a key -/

/-- One item or a list of them: no mapping and no plain null. -/
def Node.IsItems (n : Node) : Prop := n.isMapping = false ∧ n ≠ null

theorem Node.IsItems.sequence (xs : List Node) : (sequence xs).IsItems :=
  ⟨rfl, by simp⟩

theorem Node.IsItems.asItems {n : Node} (h : n.IsItems) : n.asItems = n.splice := by
  cases n with
  | null => exact absurd rfl h.2
  | bool | number | text | sequence | mapping | tagged => rfl

theorem Node.IsLeaf.child?_eq_none {n : Node} (h : n.IsLeaf)
    (hopen : n.isMapping = true → n.isTagged = false) (key : String) : n.child? key = none := by
  cases hmap : n.isMapping with
  | false => exact child?_of_not_mapping hmap key
  | true =>
      obtain ⟨es, rfl⟩ := eq_mapping_of_isMapping hmap (hopen hmap)
      obtain rfl : es = [] := by
        by_contra hes
        obtain ⟨t, ts, ht⟩ := List.exists_cons_of_ne_nil (leaves_ne_nil (mapping es))
        have hmem : t ∈ (mapping es).leaves := by rw [ht]; exact List.mem_cons_self
        have hkeys : t.keys = [] := congrArg Twig.keys (h.eq_of_mem hmem)
        rw [leaves_mapping hes] at hmem
        exact keys_ne_nil_of_mem hmem hkeys
      rfl

/-- At the key of a place stands a list with these items. -/
structure Keeps (items : List Node) (key : String) (place : Option Node) : Prop where
  mapping : ∃ es, place = some (mapping es)
  kept : ∃ n, childAt? place key = some n ∧ n.IsItems ∧ items ⊆ n.splice

/-- The write leaves items at a key: it goes elsewhere, it joins them, or it has
them itself. -/
structure Deposit.Spares (items : List Node) (key : String) (d : Deposit) : Prop where
  keys : d.keys ≠ []
  inside : d.keys.head? = some key →
    d.keys = [key] ∧ (d.append = true ∨ d.value.IsItems ∧ items ⊆ d.value.splice)

theorem Node.placed_isItems {value : Node} (hvalue : value.IsItems) (append : Bool)
    (place : Option Node) :
    (value.placed append place).node.IsItems ∧
      value.splice ⊆ (value.placed append place).node.splice := by
  have hfresh : (value.fresh append).IsItems ∧ value.splice ⊆ (value.fresh append).splice := by
    cases append with
    | false => exact ⟨hvalue, List.Subset.refl _⟩
    | true => exact ⟨.sequence _, List.Subset.refl _⟩
  cases place with
  | none => exact hfresh
  | some present =>
      rw [placed]
      split
      · exact ⟨.sequence _, List.subset_append_right _ _⟩
      · exact hfresh

theorem Node.placed_of_items {present : Node} (hpresent : present.IsItems) (value : Node) :
    (value.placed true (some present)).node.IsItems ∧
      present.splice ⊆ (value.placed true (some present)).node.splice := by
  rw [placed, if_pos (by rw [hpresent.1]; rfl)]
  refine ⟨.sequence _, ?_⟩
  rw [← hpresent.asItems]
  exact List.subset_append_left _ _

namespace Keeps

variable {items : List Node} {key : String} {place place' : Option Node} {d : Deposit}
  {ds : List Deposit} {w : Written} {cs : List Clash}

theorem isOpen (h : Keeps items key place) : Open place := by
  obtain ⟨es, rfl⟩ := h.mapping
  exact open_mapping es

/-- A write of items at the key. -/
theorem of_put (hplace : Open place) (hkeys : d.keys = [key]) (hvalue : d.value.IsItems)
    (hput : d.put place = some w) : Keeps d.value.splice key (some w.node) := by
  obtain ⟨⟨es, hes⟩, hinner⟩ :=
    Deposit.put_child hplace (by rw [hkeys]; exact List.cons_ne_nil _ _) hput key
  have hbelow : d.below? key = some ⟨[], d.value, d.append⟩ := by
    rw [Deposit.below?, hkeys, keysBelow?_self]
    rfl
  rw [hbelow] at hinner
  obtain ⟨v, hv, hchild, -⟩ := hinner
  rw [Deposit.put_nil, Option.some.injEq] at hv
  obtain ⟨hitems, hsubset⟩ := placed_isItems hvalue d.append (childAt? place key)
  refine ⟨⟨es, congrArg some hes⟩, v.node, hchild, ?_⟩
  rw [← hv]
  exact ⟨hitems, hsubset⟩

theorem put (h : Keeps items key place) (hd : d.Spares items key) (hput : d.put place = some w) :
    Keeps items key (some w.node) := by
  obtain ⟨⟨es, hes⟩, hchild⟩ := Deposit.put_child h.isOpen hd.keys hput key
  obtain ⟨n, hn, hitems, hsubset⟩ := h.kept
  cases hbelow : d.below? key with
  | none =>
      rw [hbelow] at hchild
      exact ⟨⟨es, congrArg some hes⟩, n, hchild.1.trans hn, hitems, hsubset⟩
  | some inner =>
      obtain ⟨rest, hrest, rfl⟩ := Option.map_eq_some_iff.mp hbelow
      have hhead : d.keys.head? = some key := by rw [keysBelow?_eq_some.mp hrest]; rfl
      obtain ⟨hkeys, hjoins⟩ := hd.inside hhead
      rcases hjoins with happend | ⟨hvalue, hown⟩
      · obtain rfl : rest = [] := by
          rw [keysBelow?_eq_some.mp hrest] at hkeys
          simpa using hkeys
        rw [hbelow, hn] at hchild
        obtain ⟨v, hv, hchild, -⟩ := hchild
        rw [happend, Deposit.put_nil, Option.some.injEq] at hv
        obtain ⟨hjoined, hkept⟩ := placed_of_items hitems d.value
        refine ⟨⟨es, congrArg some hes⟩, v.node, hchild, ?_⟩
        rw [← hv]
        exact ⟨hjoined, List.Subset.trans hsubset hkept⟩
      · have hown' := of_put h.isOpen hkeys hvalue hput
        obtain ⟨m, hm, hmitems, hmsubset⟩ := hown'.kept
        exact ⟨hown'.mapping, m, hm, hmitems, List.Subset.trans hown hmsubset⟩

/-- Items that every write spares are there in the end. -/
theorem run (h : Keeps items key place) (hlaid : Laid place ds place' cs)
    (hds : ∀ d ∈ ds, d.Spares items key) : Keeps items key place' := by
  induction hlaid with
  | nil => exact h
  | cons first _ ih =>
      exact ih (h.put (hds _ List.mem_cons_self) first) fun d hd =>
        hds d (List.mem_cons_of_mem _ hd)

/-- A write in the place of all that stands there is reported. -/
theorem clash_of_keys_eq_nil (h : Keeps items key place) (hkeys : d.keys = [])
    (happend : d.append = false) (hput : d.put place = some w) :
    w.clash = some ⟨[], .subtreeReplaced⟩ := by
  obtain ⟨es, rfl⟩ := h.mapping
  have hplaced : d.put (some (.mapping es)) =
      some (d.value.placed d.append (some (.mapping es))) := by
    rw [Deposit.put, hkeys]
  rw [hplaced, Option.some.injEq, happend] at hput
  rw [← hput]
  rfl

/-- A write in the place of what stands at the key is reported. -/
theorem exists_clash_of_keys_eq (h : Keeps items key place) (hkeys : d.keys = [key])
    (happend : d.append = false) (hput : d.put place = some w) :
    ∃ c, w.clash = some c ∧ c.segments = [key] := by
  obtain ⟨-, hinner⟩ :=
    Deposit.put_child h.isOpen (by rw [hkeys]; exact List.cons_ne_nil _ _) hput key
  obtain ⟨n, hn, hitems, -⟩ := h.kept
  have hbelow : d.below? key = some ⟨[], d.value, false⟩ := by
    rw [Deposit.below?, hkeys, keysBelow?_self, happend]
    rfl
  rw [hbelow, hn] at hinner
  obtain ⟨v, hv, -, hclash⟩ := hinner
  rw [Deposit.put_nil, Option.some.injEq] at hv
  have hreported : v.clash = some ⟨[], .overwritten⟩ := by
    rw [← hv, placed, hitems.1]
    rfl
  rw [hreported] at hclash
  obtain ⟨c, hc, hinner⟩ := Option.bind_eq_some_iff.mp hclash
  obtain ⟨rest, hrest, heq⟩ := Option.map_eq_some_iff.mp hinner
  obtain rfl : rest = [] := congrArg Clash.segments heq
  exact ⟨c, hc, keysBelow?_eq_some.mp hrest⟩

/-- A write that takes the place of what stands at the key, or of all that stands
at its place, is reported, if nothing is written further down. -/
theorem exists_clash (h : Keeps items key place) (hlaid : Laid place ds place' cs)
    (hflat : ∀ d ∈ ds, d.keys.head? = some key → d.keys = [key])
    (hplain : ∀ d ∈ ds, d.keys = [] → d.append = false)
    (hover : ∃ d ∈ ds, d.keys = [] ∨ d.keys = [key] ∧ d.append = false) :
    ∃ d ∈ ds, (d.keys = [] ∨ d.keys = [key] ∧ d.append = false) ∧
      ∃ c ∈ cs, c.segments = d.keys := by
  induction hlaid with
  | nil => simp at hover
  | @cons place place' d ds w cs first _ ih =>
      by_cases hnil : d.keys = []
      · have hclash := h.clash_of_keys_eq_nil hnil (hplain d List.mem_cons_self hnil) first
        exact ⟨d, List.mem_cons_self, Or.inl hnil, _,
          List.mem_append_left _ (Option.mem_toList.mpr hclash), hnil.symm⟩
      · by_cases hover' : d.keys = [key] ∧ d.append = false
        · obtain ⟨c, hclash, hsegments⟩ := h.exists_clash_of_keys_eq hover'.1 hover'.2 first
          exact ⟨d, List.mem_cons_self, Or.inr hover', c,
            List.mem_append_left _ (Option.mem_toList.mpr hclash), hsegments.trans hover'.1.symm⟩
        · -- the items outlast this write
          have hspares : d.Spares items key := by
            refine ⟨hnil, fun hhead => ?_⟩
            have hkeys := hflat d List.mem_cons_self hhead
            exact ⟨hkeys, Or.inl (by simpa [hkeys] using hover')⟩
          have hbehind : ∃ e ∈ ds, e.keys = [] ∨ e.keys = [key] ∧ e.append = false := by
            obtain ⟨e, he, hover⟩ := hover
            rcases List.mem_cons.mp he with rfl | he
            · exact absurd hover (by simpa [hnil] using hover')
            · exact ⟨e, he, hover⟩
          obtain ⟨e, he, hover, c, hc, hsegments⟩ := ih (h.put hspares first)
            (fun e he => hflat e (List.mem_cons_of_mem _ he))
            (fun e he => hplain e (List.mem_cons_of_mem _ he)) hbehind
          exact ⟨e, List.mem_cons_of_mem _ he, hover, c, List.mem_append_right _ hc, hsegments⟩

end Keeps

/-- A place stays open if nothing but open values is put there. -/
theorem Laid.isOpen {place place' : Option Node} {ds : List Deposit} {cs : List Clash}
    (h : Laid place ds place' cs) (hplace : Open place)
    (hds : ∀ d ∈ ds, d.keys = [] → d.append = false ∧ Open (some d.value)) : Open place' := by
  induction h with
  | nil => exact hplace
  | @cons place place' d ds w cs first _ ih =>
      refine ih ?_ fun e he => hds e (List.mem_cons_of_mem _ he)
      by_cases hnil : d.keys = []
      · obtain ⟨happend, hopen⟩ := hds d List.mem_cons_self hnil
        have hnode : w.node = d.value := by
          rw [Deposit.put, hnil, happend] at first
          rw [← Option.some.inj first]
          cases place <;> rfl
        rw [hnode]
        exact hopen
      · obtain ⟨⟨es, hes⟩, -⟩ := Deposit.put_child hplace hnil first ""
        rw [hes]
        exact open_mapping es

/-! ## The needs of an entry -/

namespace Rule.Bundled

/-- The needs of an entry itself stay where they are. -/
theorem sentTo_own (name : String) (more : List String) :
    sentTo ("te" :: name :: "depends_on" :: more) =
      [("te" :: name :: "depends_on" :: more, false)] := by
  simp [sentTo, sends, lanes, List.findSome?, Lane.sends?, Shape.bind?, fragment,
    Fragment.accepts]

/-- The needs of a phase join those of the entry. -/
theorem sentTo_phase {name phase kind : String} (hname : (fragment "NAME").accepts name = true)
    (hphase : (fragment "PHASE").accepts phase = true)
    (hkind : (fragment "DEP").accepts kind = true) :
    sentTo ["te", name, phase, "depends_on", kind] =
      [(["te", name, "depends_on", kind], true)] := by
  simp [sentTo, sends, lanes, List.findSome?, Lane.sends?, Shape.bind?, hname, hphase, hkind,
    Shape.fill]
  rfl

/-- Nothing else goes to the needs of an entry. -/
theorem mem_sentTo_needs {name : String} {words tail : List String} {append : Bool}
    (h : ("te" :: name :: "depends_on" :: tail, append) ∈ sentTo ("te" :: name :: words)) :
    words = "depends_on" :: tail ∧ append = false ∨
      ∃ phase kind, words = [phase, "depends_on", kind] ∧ tail = [kind] ∧ append = true := by
  rcases mem_sentTo h with hstays |
    ⟨lane, hlane, target, htarget, captured, happend, hsource, hwords⟩
  · left
    simpa [eq_comm] using hstays
  · right
    simp only [lanes, List.mem_cons, List.not_mem_nil, or_false] at hlane
    rcases hlane with rfl | rfl | rfl | rfl | rfl | rfl | rfl | rfl | rfl | rfl | rfl
    all_goals simp only [List.mem_singleton, List.not_mem_nil] at htarget
    all_goals subst htarget
    all_goals simp [List.forall₂_cons_left_iff, Place.Stands] at hsource hwords
    · exact absurd hwords.1.2.2 (by decide)
    · exact absurd hwords.1.2.2 (by decide)
    · obtain ⟨phase, kind, ⟨-, -, hkind, -⟩, rfl⟩ := hsource
      obtain ⟨kind', ⟨-, hkind', -⟩, rfl⟩ := hwords
      obtain rfl : kind = kind' := Option.some.inj (hkind.symm.trans hkind')
      exact ⟨phase, kind, rfl, rfl, happend⟩

end Rule.Bundled

/-- What is written for a leaf of an entry, seen from the needs of the entry. -/
def needsDeposits (name : String) (t : Twig) : List Deposit :=
  ((sentTo ("te" :: name :: t.keys)).map fun place =>
    (⟨place.1.drop 2, t.value, place.2⟩ : Deposit)).filterMap (Deposit.below? "depends_on")

theorem needsDeposits_own (name : String) (more : List String) (value : Node) :
    needsDeposits name ⟨"depends_on" :: more, value⟩ = [⟨more, value, false⟩] := by
  rw [needsDeposits, Rule.Bundled.sentTo_own]
  simp [Deposit.below?]

theorem needsDeposits_phase {name phase kind : String} (hname : name ≠ "")
    (hdot : Path.Dotless name) (hphase : phase ∈ ["build", "run"])
    (hkind : kind ∈ ["test", "spack", "module"]) (value : Node) :
    needsDeposits name ⟨[phase, "depends_on", kind], value⟩ = [⟨[kind], value, true⟩] := by
  rw [needsDeposits, Rule.Bundled.sentTo_phase (Rule.Bundled.accepts_name hname hdot)
    (List.contains_iff_mem.mpr hphase) (List.contains_iff_mem.mpr hkind)]
  simp [Deposit.below?]

theorem mem_needsDeposits {name : String} {t : Twig} {d : Deposit} (h : d ∈ needsDeposits name t) :
    d.value = t.value ∧ (t.keys = "depends_on" :: d.keys ∧ d.append = false ∨
      ∃ phase kind, t.keys = [phase, "depends_on", kind] ∧ d.keys = [kind] ∧ d.append = true) := by
  obtain ⟨d', hd', hbelow⟩ := List.mem_filterMap.mp h
  obtain ⟨place, hplace, rfl⟩ := List.mem_map.mp hd'
  obtain ⟨rest, hrest, rfl⟩ := Option.map_eq_some_iff.mp hbelow
  obtain ⟨tail, htail, -⟩ := Rule.Bundled.exists_of_mem_sentTo_te place hplace
  have hkeys : place = ("te" :: name :: "depends_on" :: rest, place.2) := by
    rw [htail] at hrest
    have hdrop : tail = "depends_on" :: rest := keysBelow?_eq_some.mp hrest
    exact Prod.ext (by rw [htail, hdrop]) rfl
  rw [hkeys] at hplace
  exact ⟨rfl, Rule.Bundled.mem_sentTo_needs hplace⟩

/-- What an entry needs of a kind, in each of the three places, is an item or a
list of them, and its own needs are not under a tag. -/
structure Node.DeclaresNeeds (entry : Node) (kind : String) : Prop where
  items : ∀ t ∈ entry.leaves, ∀ place ∈ [["build", "depends_on", kind], ["run", "depends_on", kind],
    ["depends_on", kind]], place <+: t.keys → t.keys = place ∧ t.value.IsItems
  own : ∀ t ∈ entry.leaves, t.keys = ["depends_on"] → t.value.isMapping = true →
    t.value.isTagged = false

namespace Node.DeclaresNeeds

variable {entry : Node} {kind name : String} {d : Deposit} {t : Twig}

/-- No need of the kind is written below the kind. -/
theorem flat (h : entry.DeclaresNeeds kind) (ht : t ∈ entry.leaves)
    (hd : d ∈ needsDeposits name t) (hhead : d.keys.head? = some kind) : d.keys = [kind] := by
  obtain ⟨-, ⟨hkeys, -⟩ | ⟨phase, other, -, hkeys, -⟩⟩ := mem_needsDeposits hd
  · obtain ⟨rest, hrest⟩ : ∃ rest, d.keys = kind :: rest := by
      cases hcons : d.keys with
      | nil => rw [hcons] at hhead; simp at hhead
      | cons key rest =>
          rw [hcons, List.head?_cons, Option.some.injEq] at hhead
          exact ⟨rest, by rw [hhead]⟩
    have hprefix : ["depends_on", kind] <+: t.keys := ⟨rest, by rw [hkeys, hrest]; rfl⟩
    have hsame := (h.items t ht ["depends_on", kind] (by simp) hprefix).1
    rw [hkeys] at hsame
    exact List.tail_eq_of_cons_eq hsame
  · rw [hkeys] at hhead ⊢
    simpa using hhead

theorem isOpen (h : entry.DeclaresNeeds kind) (ht : t ∈ entry.leaves)
    (hd : d ∈ needsDeposits name t) (hnil : d.keys = []) :
    d.append = false ∧ Open (some d.value) := by
  obtain ⟨hvalue, ⟨hkeys, happend⟩ | ⟨phase, other, -, hkeys, -⟩⟩ := mem_needsDeposits hd
  · refine ⟨happend, ?_⟩
    rw [hnil] at hkeys
    rintro n ⟨⟩ hmap
    rw [hvalue] at hmap ⊢
    exact h.own t ht hkeys hmap
  · rw [hnil] at hkeys
    simp at hkeys

end Node.DeclaresNeeds

section

variable {name kind : String} {entry : Node} {before after : List Twig} {t : Twig}
  {value : Node} {append : Bool} {place : Option Node} {cs : List Clash}

/-- Once the items of a leaf are written, the leaves behind it decide whether they
stay. -/
theorem keeps_of_laid (h : entry.DeclaresNeeds kind)
    (hlaid : Laid none (entry.leaves.flatMap (needsDeposits name)) place cs)
    (hsplit : entry.leaves = before ++ t :: after)
    (ht : needsDeposits name t = [⟨[kind], value, append⟩]) (hvalue : value.IsItems) :
    ∃ written back, Keeps value.splice kind (some written) ∧
      Laid (some written) (after.flatMap (needsDeposits name)) place back ∧ back ⊆ cs := by
  rw [hsplit, List.flatMap_append, List.flatMap_cons, ht] at hlaid
  obtain ⟨mid, front, back, hfront, hback, rfl⟩ := hlaid.exists_of_append
  have hmid : Open mid := hfront.isOpen open_none fun d hd hnil => by
    obtain ⟨s, hs, hd⟩ := List.mem_flatMap.mp hd
    exact h.isOpen (by simp [hsplit, hs]) hd hnil
  cases hback with
  | @cons _ _ _ _ w back first others =>
      refine ⟨w.node, back, Keeps.of_put hmid rfl hvalue first, others, fun c hc => ?_⟩
      exact List.mem_append_right _ (List.mem_append_right _ hc)

/-- A need of a phase is there in the end if no needs of the entry itself come
behind it. -/
theorem keeps_phase (h : entry.DeclaresNeeds kind)
    (hlaid : Laid none (entry.leaves.flatMap (needsDeposits name)) place cs)
    (hsplit : entry.leaves = before ++ t :: after)
    (ht : needsDeposits name t = [⟨[kind], value, append⟩]) (hvalue : value.IsItems)
    (hafter : ∀ s ∈ after, s.keys ≠ ["depends_on"] ∧ s.keys ≠ ["depends_on", kind]) :
    Keeps value.splice kind place := by
  obtain ⟨written, back, hkeeps, hback, -⟩ := keeps_of_laid h hlaid hsplit ht hvalue
  refine hkeeps.run hback fun d hd => ?_
  obtain ⟨s, hs, hd⟩ := List.mem_flatMap.mp hd
  have hkind := h.flat (by simp [hsplit, hs]) hd
  obtain ⟨hown, hown'⟩ := hafter s hs
  obtain ⟨-, ⟨hkeys, -⟩ | ⟨phase, other, -, hkeys, happend⟩⟩ := mem_needsDeposits hd
  · refine ⟨fun hnil => hown (hnil ▸ hkeys), fun hhead => ?_⟩
    exact absurd (hkind hhead ▸ hkeys) hown'
  · exact ⟨by simp [hkeys], fun hhead => ⟨hkind hhead, Or.inl happend⟩⟩

/-- If needs of the entry itself come behind, it is reported where. -/
theorem exists_clash_behind (h : entry.DeclaresNeeds kind)
    (hlaid : Laid none (entry.leaves.flatMap (needsDeposits name)) place cs)
    (hsplit : entry.leaves = before ++ t :: after)
    (ht : needsDeposits name t = [⟨[kind], value, append⟩]) (hvalue : value.IsItems)
    (hafter : ∃ s ∈ after, s.keys = ["depends_on"] ∨ s.keys = ["depends_on", kind]) :
    ∃ s ∈ after, (s.keys = ["depends_on"] ∨ s.keys = ["depends_on", kind]) ∧
      ∃ c ∈ cs, "depends_on" :: c.segments = s.keys := by
  obtain ⟨written, back, hkeeps, hback, hsub⟩ := keeps_of_laid h hlaid hsplit ht hvalue
  have hmem : ∀ s ∈ after, s ∈ entry.leaves := fun s hs => by simp [hsplit, hs]
  have hover : ∃ d ∈ after.flatMap (needsDeposits name),
      d.keys = [] ∨ d.keys = [kind] ∧ d.append = false := by
    obtain ⟨⟨keys, value⟩, hs, hkeys⟩ := hafter
    have hwritten : ∀ more, keys = "depends_on" :: more →
        ⟨more, value, false⟩ ∈ after.flatMap (needsDeposits name) := by
      rintro more rfl
      exact List.mem_flatMap.mpr ⟨_, hs, by simp [needsDeposits_own]⟩
    rcases hkeys with hkeys | hkeys
    · exact ⟨_, hwritten _ hkeys, Or.inl rfl⟩
    · exact ⟨_, hwritten _ hkeys, Or.inr ⟨rfl, rfl⟩⟩
  obtain ⟨d, hd, hover, c, hc, hsegments⟩ := hkeeps.exists_clash hback
    (fun d hd hhead => by
      obtain ⟨s, hs, hd⟩ := List.mem_flatMap.mp hd
      exact h.flat (hmem s hs) hd hhead)
    (fun d hd hnil => by
      obtain ⟨s, hs, hd⟩ := List.mem_flatMap.mp hd
      exact (h.isOpen (hmem s hs) hd hnil).1) hover
  obtain ⟨s, hs, hd⟩ := List.mem_flatMap.mp hd
  obtain ⟨-, ⟨hkeys, -⟩ | ⟨phase, other, -, hkeys, happend⟩⟩ := mem_needsDeposits hd
  · refine ⟨s, hs, ?_, c, hsub hc, by rw [hsegments, hkeys]⟩
    rcases hover with hnil | ⟨hkind, -⟩
    · exact Or.inl (by rw [hkeys, hnil])
    · exact Or.inr (by rw [hkeys, hkind])
  · -- a need of a phase joins what is there
    simp [hkeys, happend] at hover

/-- The needs of the entry itself are there in the end. -/
theorem keeps_own (h : entry.DeclaresNeeds kind) (hentry : entry.WellKeyed)
    (hlaid : Laid none (entry.leaves.flatMap (needsDeposits name)) place cs)
    (hown : ⟨["depends_on", kind], value⟩ ∈ entry.leaves) : Keeps value.splice kind place := by
  obtain ⟨before, after, hsplit⟩ := List.append_of_mem hown
  have hvalue : value.IsItems :=
    (h.items _ hown ["depends_on", kind] (by simp) (List.prefix_refl _)).2
  obtain ⟨written, back, hkeeps, hback, -⟩ :=
    keeps_of_laid h hlaid hsplit (needsDeposits_own name [kind] value) hvalue
  have hfound := hentry.at?_of_mem_leaves _ hown
  refine hkeeps.run hback fun d hd => ?_
  obtain ⟨s, hs, hd⟩ := List.mem_flatMap.mp hd
  have hmem : s ∈ entry.leaves := by simp [hsplit, hs]
  have hkind := h.flat hmem hd
  obtain ⟨hsame, ⟨hkeys, -⟩ | ⟨phase, other, -, hkeys, happend⟩⟩ := mem_needsDeposits hd
  · refine ⟨fun hnil => ?_, fun hhead => ⟨hkind hhead, Or.inr ?_⟩⟩
    · -- the leaf would have another below it
      have hleaf := hentry.at?_of_mem_leaves s hmem
      rw [hkeys, hnil] at hleaf
      have hchild := (at?_concat entry ["depends_on"] kind).symm.trans hfound
      rw [hleaf, childAt?_some,
        (IsLeaf.of_mem_leaves s hmem).child?_eq_none (h.own s hmem (hnil ▸ hkeys))] at hchild
      simp at hchild
    · have hagain := hentry.at?_of_mem_leaves s hmem
      rw [hkeys, hkind hhead] at hagain
      rw [hsame, Option.some.inj (hagain.symm.trans hfound)]
      exact ⟨hvalue, List.Subset.refl _⟩
  · exact ⟨by simp [hkeys], fun hhead => ⟨hkind hhead, Or.inl happend⟩⟩

end

namespace Migration

/-- What a migration of a suite leaves of the needs of an entry is what the writes
of those needs leave where nothing stood. -/
theorem laid_needs {es : Entries} {name : String} {entry result : Node} {report : Report}
    (hes : (mapping es).WellKeyed) (hbare : ∀ inner, es ≠ [(text "te", inner)])
    (hentry : Entries.get? name es = some entry)
    (h : convert (mapping es) .te Rule.Bundled.rules .overwrite = .ok (result, report))
    (hkeys : ∀ t ∈ entry.leaves, t.keys ≠ []) :
    ∃ cs : List Clash, Laid none (entry.leaves.flatMap (needsDeposits name))
        (result.at? ["te", name, "depends_on"]) cs ∧
      ∀ c ∈ cs, ∃ collision ∈ report.collisions,
        collision.path = Path.ofSegments ("te" :: name :: "depends_on" :: c.segments) := by
  obtain ⟨cs, hcollisions, hlaid⟩ := laid_entry hes hbare hentry h
  have hneeds := hlaid.child open_none (fun d hd => by
    obtain ⟨t, ht, hd⟩ := List.mem_flatMap.mp hd
    obtain ⟨place, hplace, rfl⟩ := List.mem_map.mp hd
    obtain ⟨tail, htail, hne⟩ := Rule.Bundled.exists_of_mem_sentTo_te place hplace
    show place.1.drop 2 ≠ []
    rw [htail]
    exact hne (hkeys t ht)) "depends_on"
  rw [← at?_concat, entryDeposits, List.filterMap_flatMap] at hneeds
  refine ⟨_, hneeds, fun c hc => ?_⟩
  obtain ⟨c', hc', hbelow⟩ := List.mem_filterMap.mp hc
  obtain ⟨c₀, hc₀, hbelow'⟩ := List.mem_filterMap.mp hc'
  obtain ⟨c'', hte, hname⟩ := Option.bind_eq_some_iff.mp hbelow'
  obtain ⟨rest, hrest, rfl⟩ := Option.map_eq_some_iff.mp hbelow
  obtain ⟨rest', hrest', rfl⟩ := Option.map_eq_some_iff.mp hname
  obtain ⟨rest'', hrest'', rfl⟩ := Option.map_eq_some_iff.mp hte
  refine ⟨c₀.reported, ?_, ?_⟩
  · rw [hcollisions]
    exact List.mem_map_of_mem hc₀
  · rw [keysBelow?_eq_some] at hrest hrest' hrest''
    show Path.ofSegments c₀.segments = Path.ofSegments ("te" :: name :: "depends_on" :: rest)
    rw [hrest'', show rest'' = _ from hrest', show rest' = _ from hrest]

/-- Merging the needs of an entry loses none of its own, and none of a phase but
those that its own come behind: they take their place, and the report says where.
The needs of an entry are the items at `depends_on`, those of a phase the items at
`depends_on` below the phase, of one kind each. -/
theorem bundled_convert_keeps_needs :
    ∃ rules, RuleTable.bundled = .ok rules ∧
      (∀ es, (mapping es).WellKeyed → (∀ inner, es ≠ [(text "te", inner)]) →
        (mapping es).Walkable →
        ∃ result report, convert (mapping es) .te rules .overwrite = .ok (result, report)) ∧
      ∀ es name entry kind result report,
        (mapping es).WellKeyed → (∀ inner, es ≠ [(text "te", inner)]) → name ≠ "" →
        kind ∈ ["test", "spack", "module"] → Entries.get? name es = some entry →
        entry.DeclaresNeeds kind →
        convert (mapping es) .te rules .overwrite = .ok (result, report) →
        (∀ value, ⟨["depends_on", kind], value⟩ ∈ entry.leaves →
          ∃ merged, result.at? ["te", name, "depends_on", kind] = some merged ∧
            value.splice ⊆ merged.splice) ∧
        ∀ phase ∈ ["build", "run"], ∀ before after value,
          entry.leaves = before ++ ⟨[phase, "depends_on", kind], value⟩ :: after →
          ((∀ t ∈ after, t.keys ≠ ["depends_on"] ∧ t.keys ≠ ["depends_on", kind]) →
            ∃ merged, result.at? ["te", name, "depends_on", kind] = some merged ∧
              value.splice ⊆ merged.splice) ∧
          ((∃ t ∈ after, t.keys = ["depends_on"] ∨ t.keys = ["depends_on", kind]) →
            ∃ t ∈ after, (t.keys = ["depends_on"] ∨ t.keys = ["depends_on", kind]) ∧
              ∃ c ∈ report.collisions, c.path = Path.ofSegments ("te" :: name :: t.keys)) := by
  refine ⟨_, RuleTable.bundled_eq, fun es => exists_convert_suite, ?_⟩
  intro es name entry kind result report hes hbare hname hkind hentry hneeds hconvert
  have hmem := Entries.mem_of_get? hentry
  have hdot : Path.Dotless name := by
    obtain ⟨key, hkey, hdot⟩ := hes.named.dotless _ hmem
    rwa [← Node.text.inj hkey] at hdot
  have hkept : ∀ {value}, Keeps (splice value) kind (result.at? ["te", name, "depends_on"]) →
      ∃ merged, result.at? ["te", name, "depends_on", kind] = some merged ∧
        value.splice ⊆ merged.splice := by
    intro value hkeeps
    obtain ⟨merged, hmerged, -, hsubset⟩ := hkeeps.kept
    exact ⟨merged, (at?_concat result ["te", name, "depends_on"] kind).trans hmerged, hsubset⟩
  -- a leaf below the entry leaves none at the entry itself
  have hlaid : ∀ {t : Twig}, t ∈ entry.leaves → t.keys ≠ [] → _ := fun ht hkeys =>
    laid_needs hes hbare hentry hconvert fun s hs hnil =>
      hkeys (congrArg Twig.keys ((IsLeaf.of_keys_eq_nil hs hnil).eq_of_mem ht))
  constructor
  · intro value hvalue
    obtain ⟨cs, hlaid, -⟩ := hlaid hvalue (List.cons_ne_nil _ _)
    exact hkept (keeps_own hneeds (hes.value hmem) hlaid hvalue)
  · intro phase hphase before after value hsplit
    have hleaf : ⟨[phase, "depends_on", kind], value⟩ ∈ entry.leaves := by simp [hsplit]
    have hvalue : value.IsItems := by
      refine (hneeds.items _ hleaf [phase, "depends_on", kind] ?_ (List.prefix_refl _)).2
      rcases List.mem_cons.mp hphase with rfl | hphase
      · simp
      · rw [List.mem_singleton.mp hphase]
        simp
    obtain ⟨cs, hlaid, hreported⟩ := hlaid hleaf (List.cons_ne_nil _ _)
    have hwritten := needsDeposits_phase hname hdot hphase hkind value
    refine ⟨fun hafter => hkept (keeps_phase hneeds hlaid hsplit hwritten hvalue hafter),
      fun hafter => ?_⟩
    obtain ⟨t, ht, hkeys, c, hc, hsegments⟩ :=
      exists_clash_behind hneeds hlaid hsplit hwritten hvalue hafter
    obtain ⟨collision, hcollision, hpath⟩ := hreported c hc
    exact ⟨t, ht, hkeys, collision, hcollision, by rw [hpath, hsegments]⟩

/-- What the needs of an entry and those of a phase of it are written as. -/
private theorem writesOf_needs (needs : Node) :
    Rule.Bundled.rules.modifiers.writesOf ⟨"te.a.depends_on.spack", needs⟩ =
        [⟨"te.a.depends_on.spack", needs, false⟩] ∧
      Rule.Bundled.rules.modifiers.writesOf ⟨"te.a.build.depends_on.spack", needs⟩ =
        [⟨"te.a.depends_on.spack", needs, true⟩] := by
  have hown : sentTo (Path.segments "te.a.depends_on.spack") =
      [(["te", "a", "depends_on", "spack"], false)] := by decide +kernel
  have hphase : sentTo (Path.segments "te.a.build.depends_on.spack") =
      [(["te", "a", "depends_on", "spack"], true)] := by decide +kernel
  rw [Rule.Bundled.writesOf_modifiers, Rule.Bundled.writesOf_modifiers, hown, hphase]
  exact ⟨rfl, rfl⟩

/-- Needs of the entry itself first, those of a phase behind them: all are there. -/
theorem bundled_convert_keeps_needs_behind :
    ∃ rules report, RuleTable.bundled = .ok rules ∧
      convert (mapping [(text "a", mapping [
          (text "depends_on", mapping [(text "spack", text "y")]),
          (text "build", mapping [(text "depends_on", mapping [(text "spack",
            sequence [text "x", text "z"])])])])]) .te rules .overwrite =
        .ok (mapping [(text "te", mapping [(text "a", mapping [(text "depends_on",
          mapping [(text "spack", sequence [text "y", text "x", text "z"])])])])], report) ∧
      [text "y"] ⊆ [text "y", text "x", text "z"] ∧
      [text "x", text "z"] ⊆ [text "y", text "x", text "z"] := by
  obtain ⟨rules, hrules, -, hkeeps⟩ := bundled_convert_keeps_needs
  obtain rfl : Rule.Bundled.rules = rules := Except.ok.inj (RuleTable.bundled_eq.symm.trans hrules)
  have hchain : ∀ keys, (∀ key ∈ keys, Path.Dotless key) → ∀ n, n.WellKeyed →
      (chain keys n).WellKeyed := fun keys hkeys n hn => hn.chain hkeys
  have hkeyed : (mapping [(text "a", mapping [
      (text "depends_on", mapping [(text "spack", text "y")]),
      (text "build", mapping [(text "depends_on", mapping [(text "spack",
        sequence [text "x", text "z"])])])])]).WellKeyed :=
    hchain ["a"] (by decide) _ (WellKeyed.cons_iff.mpr ⟨⟨"depends_on", rfl, by decide, rfl⟩,
      hchain ["spack"] (by decide) _ (.leaf (by simp)),
      hchain ["build", "depends_on", "spack"] (by decide) _ (.leaf (by simp))⟩)
  have hbuilt : rebuild .overwrite ((flattenUnder .te (mapping [(text "a", mapping [
      (text "depends_on", mapping [(text "spack", text "y")]),
      (text "build", mapping [(text "depends_on", mapping [(text "spack",
        sequence [text "x", text "z"])])])])])).flatMap Rule.Bundled.rules.modifiers.writesOf) =
      .ok (mapping [(text "te", mapping [(text "a", mapping [(text "depends_on",
        mapping [(text "spack", sequence [text "y", text "x", text "z"])])])])], []) := by
    show rebuild .overwrite ([Leaf.mk "te.a.depends_on.spack" (text "y"),
      Leaf.mk "te.a.build.depends_on.spack" (sequence [text "x", text "z"])].flatMap
        Rule.Bundled.rules.modifiers.writesOf) = _
    rw [List.flatMap_cons, List.flatMap_singleton, (writesOf_needs _).1, (writesOf_needs _).2]
    rfl
  obtain ⟨report, hconvert, -⟩ := exists_convert_of_rebuild Rule.Bundled.isStable hbuilt
  obtain ⟨hown, hphase⟩ := hkeeps _ "a" _ "spack" _ _ hkeyed (by simp) (by decide) (by decide) rfl
    { items := by
        intro t ht place hplace hprefix
        rcases List.mem_pair.mp ht with rfl | rfl
        all_goals simp only [List.mem_cons, List.not_mem_nil, or_false] at hplace
        all_goals rcases hplace with rfl | rfl | rfl
        all_goals first
          | exact absurd hprefix (by decide)
          | exact ⟨rfl, rfl, by simp⟩
      own := by
        intro t ht hkeys
        rcases List.mem_pair.mp ht with rfl | rfl <;> simp at hkeys } hconvert
  refine ⟨_, report, hrules, hconvert, ?_, ?_⟩
  · obtain ⟨merged, hmerged, hsubset⟩ := hown (text "y") List.mem_cons_self
    rw [← Option.some.inj hmerged] at hsubset
    exact hsubset
  · obtain ⟨merged, hmerged, hsubset⟩ := (hphase "build" (by simp) [⟨["depends_on", "spack"],
      text "y"⟩] [] (sequence [text "x", text "z"]) rfl).1 (by simp)
    rw [← Option.some.inj hmerged] at hsubset
    exact hsubset

/-- Needs of a phase first, those of the entry itself behind them: the report has
what the result has lost. -/
theorem bundled_convert_loses_needs :
    ∃ rules report, RuleTable.bundled = .ok rules ∧
      (mapping [(text "a", mapping [
          (text "build", mapping [(text "depends_on", mapping [(text "spack", text "x")])]),
          (text "depends_on", mapping [(text "spack", text "y")])])]).WellKeyed ∧
      convert (mapping [(text "a", mapping [
          (text "build", mapping [(text "depends_on", mapping [(text "spack", text "x")])]),
          (text "depends_on", mapping [(text "spack", text "y")])])]) .te rules .overwrite =
        .ok (mapping [(text "te", mapping [(text "a", mapping [(text "depends_on",
          mapping [(text "spack", text "y")])])])], report) ∧
      (mapping [(text "te", mapping [(text "a", mapping [(text "depends_on",
        mapping [(text "spack", text "y")])])])]).at? ["te", "a", "depends_on", "spack"] =
          some (text "y") ∧
      text "x" ∉ (text "y").splice ∧
      report.collisions = [⟨"te.a.depends_on.spack", .overwritten⟩] := by
  have hchain : ∀ keys, (∀ key ∈ keys, Path.Dotless key) → ∀ n, n.WellKeyed →
      (chain keys n).WellKeyed := fun keys hkeys n hn => hn.chain hkeys
  have hkeyed : (mapping [(text "a", mapping [
      (text "build", mapping [(text "depends_on", mapping [(text "spack", text "x")])]),
      (text "depends_on", mapping [(text "spack", text "y")])])]).WellKeyed :=
    hchain ["a"] (by decide) _ (WellKeyed.cons_iff.mpr ⟨⟨"build", rfl, by decide, rfl⟩,
      hchain ["depends_on", "spack"] (by decide) _ (.leaf (by simp)),
      hchain ["depends_on", "spack"] (by decide) _ (.leaf (by simp))⟩)
  have hbuilt : rebuild .overwrite ((flattenUnder .te (mapping [(text "a", mapping [
      (text "build", mapping [(text "depends_on", mapping [(text "spack", text "x")])]),
      (text "depends_on", mapping [(text "spack", text "y")])])])).flatMap
        Rule.Bundled.rules.modifiers.writesOf) =
      .ok (mapping [(text "te", mapping [(text "a", mapping [(text "depends_on",
        mapping [(text "spack", text "y")])])])],
        [⟨"te.a.depends_on.spack", .overwritten⟩]) := by
    show rebuild .overwrite ([Leaf.mk "te.a.build.depends_on.spack" (text "x"),
      Leaf.mk "te.a.depends_on.spack" (text "y")].flatMap
        Rule.Bundled.rules.modifiers.writesOf) = _
    rw [List.flatMap_cons, List.flatMap_singleton, (writesOf_needs _).1, (writesOf_needs _).2]
    rfl
  obtain ⟨report, hconvert, hcollisions⟩ := exists_convert_of_rebuild Rule.Bundled.isStable hbuilt
  exact ⟨_, report, RuleTable.bundled_eq, hkeyed, hconvert, rfl, by simp [splice], hcollisions⟩

end Migration

end Trialbook

import Trialbook.Proofs.Bundled
import Trialbook.Proofs.Reading

/-!
# Migrating a suite that is in the current layout already

The two layouts of a suite differ in places that a suite of the current layout
does not have, with one exception: an axis may hold its values under a key of
their own, which the modifiers take away and which the expansion does not need.

So what the bundled modifiers do to such a suite is followed down the document,
one level of the layout after the other. At each level there is a node that the
leaves below it make after they have moved (`Carried`), and it is read in the
same way as the one before (`Agree`). Only the level of an axis has anything to
show for both.
-/

namespace Trialbook

open Node Rule

/-! ## The layout -/

namespace Job

/-- A plain mapping has no keys but these, and what stands under each is as
said. -/
def Each (keys : List String) (holds : String → Node → Prop) (n : Node) : Prop :=
  ∀ es, n = mapping es → ∀ e ∈ es, ∃ key ∈ keys, e.1 = text key ∧ holds key e.2

theorem Each.of_mem {keys : List String} {holds : String → Node → Prop} {es : Entries}
    (h : Each keys holds (mapping es)) {key : String} {v : Node} (hmem : (text key, v) ∈ es) :
    key ∈ keys ∧ holds key v := by
  obtain ⟨listed, hlisted, hkey, hvalue⟩ := h es rfl _ hmem
  obtain rfl : key = listed := by simpa using hkey
  exact ⟨hlisted, hvalue⟩

/-- An axis with its values, in place or under their key. -/
def AxisLayout : Node → Prop := Each ["values"] fun _ _ => True

/-- Every axis is one. -/
def AxesLayout (n : Node) : Prop := ∀ es, n = mapping es → ∀ e ∈ es, AxisLayout e.2

/-- The run section of an entry. -/
def RunLayout : Node → Prop :=
  Each ["program", "args", "iterate"] fun key value => key = "iterate" → AxesLayout value

/-- An entry of a suite. -/
def EntryLayout : Node → Prop :=
  Each TestEntry.knownKeys fun key value => key = "run" → RunLayout value

/-- Every entry of a suite is one. -/
def SuiteLayout (n : Node) : Prop := ∀ es, n = mapping es → ∀ e ∈ es, EntryLayout e.2

end Job

/-! ## What the modifiers can match in a suite -/

namespace Rule.Bundled

theorem modifierMoves_cases : ∀ m ∈ modifierMoves,
    (∃ kind ∈ ["compiler", "runtime", "environment"],
      (Shape.ofText m.source).head? = some (.fixed kind)) ∨
    (Shape.ofText m.source)[2]? = some (.fixed "build") ∨
    (∃ key ∈ ["depends_on", "package_manager"], ∃ token ∈ ["DEP", "PM"],
      Shape.ofText m.source =
        [.fixed "te", .token "NAME", .token "PHASE", .fixed key, .token token]) ∨
    (Shape.ofText m.source = [.fixed "te", .token "NAME", .fixed "run", .fixed "iterate",
        .token "ITER", .fixed "values"] ∧
      m.targets = [(false, "te.<NAME>.run.iterate.<ITER>")]) := by decide +kernel

theorem targets_modifierMoves : ∀ m ∈ modifierMoves, m.targets ≠ [] ∨
    ∃ kind ∈ ["compiler", "runtime"], (Shape.ofText m.source).head? = some (.fixed kind) := by
  decide +kernel

variable {path : String} {captured : String → Option String} {rest : List String}

/-- A need of a phase, in the old layout. -/
theorem build_or_needs_of_fits {key token : String} (hkey : key ∈ ["depends_on", "package_manager"])
    (hfits : Shape.Fits fragment captured
      [.fixed "te", .token "NAME", .token "PHASE", .fixed key, .token token] path)
    (h : Path.segments path = "te" :: rest) :
    (∃ name more, rest = name :: "build" :: more) ∨
      ∃ name key word, rest = [name, "run", key, word] ∧
        (key = "depends_on" ∨ key = "package_manager") := by
  rw [Shape.Fits, h] at hfits
  simp only [List.forall₂_cons_left_iff, List.forall₂_nil_left_iff, Place.Stands,
    List.cons.injEq] at hfits
  obtain ⟨_, _, -, ⟨name, _, -, ⟨phase, _, hphase, ⟨_, _, rfl, ⟨word, _, -, rfl, rfl⟩, rfl⟩,
    rfl⟩, rfl⟩, -, rfl⟩ := hfits
  have hphases : phase = "build" ∨ phase = "run" := by
    simpa [fragment, Fragment.accepts] using hphase.2
  rcases hphases with rfl | rfl
  · exact Or.inl ⟨name, _, rfl⟩
  · exact Or.inr ⟨name, _, word, rfl, by simpa using hkey⟩

/-- The values of an axis under their key, and the place of the axis for the
same words. -/
theorem axis_of_fits {place : String}
    (hfits : Shape.Fits fragment captured [.fixed "te", .token "NAME", .fixed "run",
      .fixed "iterate", .token "ITER", .fixed "values"] path)
    (hplace : Shape.Fits fragment captured
      [.fixed "te", .token "NAME", .fixed "run", .fixed "iterate", .token "ITER"] place)
    (h : Path.segments path = "te" :: rest) :
    ∃ name axis, rest = [name, "run", "iterate", axis, "values"] ∧
      Path.segments place = ["te", name, "run", "iterate", axis] := by
  rw [Shape.Fits, h] at hfits
  rw [Shape.Fits] at hplace
  simp only [List.forall₂_cons_left_iff, List.forall₂_nil_left_iff, Place.Stands,
    List.cons.injEq] at hfits hplace
  obtain ⟨_, _, -, ⟨name, _, hname, ⟨_, _, rfl, ⟨_, _, rfl, ⟨axis, _, haxis,
    ⟨_, _, rfl, rfl, rfl⟩, rfl⟩, rfl⟩, rfl⟩, rfl⟩, -, rfl⟩ := hfits
  obtain ⟨_, _, rfl, ⟨name', _, hname', ⟨_, _, rfl, ⟨_, _, rfl, ⟨axis', _, haxis', rfl, rfl⟩,
    rfl⟩, rfl⟩, rfl⟩, hsegments⟩ := hplace
  obtain rfl : name = name' := Option.some.inj (hname.1.symm.trans hname'.1)
  obtain rfl : axis = axis' := Option.some.inj (haxis.1.symm.trans haxis'.1)
  exact ⟨name, axis, rfl, hsegments⟩

/-- A path below the kind of suites is matched by no modifier unless it leads
into a build section, to the needs of a phase, or to the values of an axis under
their key. The last ones move up to the axis. -/
theorem misses_or_moves (h : Path.segments path = "te" :: rest) :
    rules.modifiers.misses path = true ∨
      (∃ name more, rest = name :: "build" :: more) ∨
      (∃ name key word, rest = [name, "run", key, word] ∧
        (key = "depends_on" ∨ key = "package_manager")) ∨
      (∃ name axis place, rest = [name, "run", "iterate", axis, "values"] ∧
        rules.modifiers.placesOf path = [(place, false)] ∧
        Path.segments place = ["te", name, "run", "iterate", axis]) := by
  cases hfind : rules.modifiers.find? path with
  | none =>
      left
      rw [RuleSet.misses, hfind]
      rfl
  | some found =>
      right
      obtain ⟨rule, captures⟩ := found
      obtain ⟨m, hm, rfl, hsearch⟩ := Move.exists_of_find? hfind
      have hfits := (Move.fits_source isDotless_fragment (isSound_modifierMoves m hm) hsearch).1
      rcases modifierMoves_cases m hm with
        ⟨kind, hkind, hhead⟩ | hbuild | ⟨key, hkey, token, -, hs⟩ | ⟨hs, htargets⟩
      -- the modifiers of the other kinds, of build sections, of needs, and of an axis
      · have hte := hfits.head?_segments hhead
        rw [h, List.head?_cons, Option.some.injEq] at hte
        rw [← hte] at hkind
        exact absurd hkind (by decide)
      · left
        rw [Shape.Fits, h] at hfits
        generalize Shape.ofText m.source = source at hfits hbuild
        cases hfits with
        | cons _ hrest =>
            cases hrest with
            | nil => simp at hbuild
            | @cons _ name _ _ _ hrest =>
                cases hrest with
                | nil => simp at hbuild
                | cons hplace _ =>
                    obtain rfl : _ = Place.fixed "build" := by simpa using hbuild
                    obtain rfl := hplace
                    exact ⟨name, _, rfl⟩
      · rw [hs] at hfits
        rw [← or_assoc]
        exact Or.inl (build_or_needs_of_fits hkey hfits h)
      · right
        right
        have htarget := Move.fits_target isDotless_fragment (isSound_modifierMoves m hm) hsearch
          (show (false, "te.<NAME>.run.iterate.<ITER>") ∈ m.targets by rw [htargets]; simp)
        have hshape : Shape.ofText "te.<NAME>.run.iterate.<ITER>" = [.fixed "te", .token "NAME",
            .fixed "run", .fixed "iterate", .token "ITER"] := by decide
        rw [hs] at hfits
        obtain ⟨name, axis, hrest, hplace⟩ := axis_of_fits hfits (hshape ▸ htarget) h
        refine ⟨name, axis, _, hrest, ?_, hplace⟩
        rw [RuleSet.placesOf, hfind]
        show (m.rule fragment).destinations.map _ = _
        rw [Move.rule, htargets]
        rfl

/-- The modifiers leave what has these segments below the kind of suites. -/
structure Untouched (rest : List String) : Prop where
  build : ∀ name more, rest ≠ name :: "build" :: more
  needs : ∀ name key word, rest = [name, "run", key, word] →
    key ≠ "depends_on" ∧ key ≠ "package_manager"
  values : ∀ name axis, rest ≠ [name, "run", "iterate", axis, "values"]

theorem misses_of_untouched (h : Path.segments path = "te" :: rest) (hrest : Untouched rest) :
    rules.modifiers.misses path = true := by
  rcases misses_or_moves h with hmisses | ⟨name, more, hbuild⟩ | ⟨name, key, word, hneeds, hkey⟩ |
    ⟨name, axis, place, hvalues, -⟩
  · exact hmisses
  · exact absurd hbuild (hrest.build name more)
  · obtain ⟨hdepends, hpackages⟩ := hrest.needs name key word hneeds
    rcases hkey with rfl | rfl
    · exact absurd rfl hdepends
    · exact absurd rfl hpackages
  · exact absurd hvalues (hrest.values name axis)

end Rule.Bundled

/-! ## Following the moves -/

namespace Migration

open Rule.Bundled (rules Untouched)

/-- The leaves of the first node at the path, moved by the modifiers, are the
leaves of the second one there. -/
structure Carried (path : String) (n n' : Node) : Prop where
  moved : (n.flattenAt path).flatMap rules.modifiers.writesOf =
    (n'.flattenAt path).map Leaf.toWrite
  wellKeyed : n'.WellKeyed

namespace Carried

variable {path : String} {front : List String}

theorem path_ne_empty (hpath : Path.segments path = "te" :: front) : path ≠ "" := by
  rintro rfl
  have hempty : Path.segments "" = [""] := rfl
  rw [hempty] at hpath
  simp at hpath

/-- A node stays if the modifiers leave all its leaves. -/
theorem refl (hpath : Path.segments path = "te" :: front) {n : Node} (hn : n.WellKeyed)
    (h : ∀ t ∈ n.leaves, Untouched (front ++ t.keys)) : Carried path n n := by
  refine ⟨RuleSet.flatMap_writesOf fun leaf hleaf => RuleSet.writesOf_of_misses ?_, hn⟩
  obtain ⟨t, ht, rfl⟩ := mem_flattenAt hleaf
  have hsegments : Path.segments (t.toLeaf path).path = "te" :: (front ++ t.keys) := by
    rw [Twig.toLeaf, Path.segments_descend (path_ne_empty hpath) (hn.dotless_of_mem_leaves t ht),
      hpath, List.cons_append]
  exact Rule.Bundled.misses_of_untouched hsegments (h t ht)

theorem leaf (hpath : Path.segments path = "te" :: front) (hfront : Untouched front) {n : Node}
    (hn : n.IsLeaf) : Carried path n n := by
  refine refl hpath hn.wellKeyed fun t ht => ?_
  rw [hn.eq_of_mem ht, List.append_nil]
  exact hfront

theorem flattenEntries {es es' : Entries}
    (h : List.Forall₂ (fun e e' => e'.1 = e.1 ∧ Carried (Path.child path e.1.keyText) e.2 e'.2)
      es es') :
    (Node.flattenEntries path es).flatMap rules.modifiers.writesOf =
      (Node.flattenEntries path es').map Leaf.toWrite := by
  induction h with
  | nil => rw [Node.flattenEntries]; rfl
  | @cons e e' es es' hfirst _ ih =>
      obtain ⟨k, v⟩ := e
      obtain ⟨k', v'⟩ := e'
      obtain ⟨rfl, hv⟩ := hfirst
      rw [Node.flattenEntries, Node.flattenEntries, List.flatMap_append, List.map_append, ih,
        hv.moved]

theorem wellKeyed_values {es es' : Entries}
    (h : List.Forall₂ (fun e e' => e'.1 = e.1 ∧ Carried (Path.child path e.1.keyText) e.2 e'.2)
      es es') : ∀ e' ∈ es', e'.2.WellKeyed := by
  induction h with
  | nil => simp
  | cons hfirst _ ih =>
      intro e' he'
      rcases List.mem_cons.mp he' with rfl | he'
      · exact hfirst.2.wellKeyed
      · exact ih e' he'

/-- A mapping whose values are carried is carried to the mapping of what they
are carried to. -/
theorem mapping (hpath : Path.segments path = "te" :: front) (hfront : Untouched front)
    {es es' : Entries} (hes : (Node.mapping es).WellKeyed)
    (h : List.Forall₂ (fun e e' => e'.1 = e.1 ∧ Carried (Path.child path e.1.keyText) e.2 e'.2)
      es es') :
    Carried path (.mapping es) (.mapping es') := by
  by_cases hnil : es = []
  · subst hnil
    cases h
    exact leaf hpath hfront leaves_mapping_nil
  · have hnil' : es' ≠ [] := fun hnil' => hnil (List.forall₂_nil_right_iff.mp (hnil' ▸ h))
    refine ⟨?_, ?_⟩
    · rw [flattenAt, if_neg (by simp [hnil]), flattenAt, if_neg (by simp [hnil'])]
      exact flattenEntries h
    · have hkeys : es'.map Prod.fst = es.map Prod.fst := by
        rw [← List.forall₂_eq_eq_eq, List.forall₂_map_left_iff, List.forall₂_map_right_iff]
        exact h.flip.imp fun _ _ hstep => hstep.1
      exact .mapping (hes.named.of_keys_eq hkeys) (wellKeyed_values h)

theorem exists_forall₂ {es : Entries} {holds : Node × Node → Node → Prop}
    (h : ∀ e ∈ es, ∃ n, holds e n) :
    ∃ es' : Entries, List.Forall₂ (fun e e' => e'.1 = e.1 ∧ holds e e'.2) es es' := by
  induction es with
  | nil => exact ⟨[], .nil⟩
  | cons e es ih =>
      obtain ⟨n, hn⟩ := h e List.mem_cons_self
      obtain ⟨es', hes'⟩ := ih fun e he => h e (List.mem_cons_of_mem _ he)
      exact ⟨(e.1, n) :: es', .cons ⟨rfl, hn⟩ hes'⟩

/-- A mapping is carried if each of its values is. -/
theorem exists_mapping (hpath : Path.segments path = "te" :: front) (hfront : Untouched front)
    {es : Entries} (hes : (Node.mapping es).WellKeyed) {holds : String → Node → Node → Prop}
    (h : ∀ key v, (text key, v) ∈ es →
      Path.segments (Path.child path key) = "te" :: (front ++ [key]) → v.WellKeyed →
        ∃ n, Carried (Path.child path key) v n ∧ holds key v n) :
    ∃ es', Carried path (.mapping es) (.mapping es') ∧ Entries.Aligned holds es es' := by
  have hvalues : ∀ e ∈ es, ∃ n, Carried (Path.child path e.1.keyText) e.2 n ∧
      ∃ key, e.1 = text key ∧ holds key e.2 n := by
    intro e he
    obtain ⟨key, hkey, hdot⟩ := hes.named.dotless e he
    have hchild := Path.segments_child (path_ne_empty hpath) hdot
    rw [hpath, List.cons_append] at hchild
    obtain ⟨n, hcarried, hholds⟩ := h key e.2 (by rw [← hkey]; exact he) hchild (hes.value he)
    exact ⟨n, by rw [hkey]; exact hcarried, key, hkey, hholds⟩
  obtain ⟨es', hes'⟩ := exists_forall₂ hvalues
  exact ⟨es', mapping hpath hfront hes (hes'.imp fun _ _ hstep => ⟨hstep.1, hstep.2.1⟩),
    hes'.imp fun _ _ hstep => ⟨hstep.1, hstep.2.2⟩⟩

/-- Only a mapping can be carried to anything but itself. -/
theorem exists_of_mapping (hpath : Path.segments path = "te" :: front) (hfront : Untouched front)
    {n : Node} {holds : Node → Prop} (hself : holds n)
    (h : ∀ es, n = .mapping es → ∃ n', Carried path n n' ∧ holds n') :
    ∃ n', Carried path n n' ∧ holds n' := by
  by_cases hmap : ∃ es, n = .mapping es
  · obtain ⟨es, hes⟩ := hmap
    exact h es hes
  · exact ⟨n, leaf hpath hfront (leaves_of_not_mapping fun es hes => hmap ⟨es, hes⟩), hself⟩

/-- A record is carried if one of its fields is and the others stay. -/
theorem exists_record {field : String} {es : Entries} {α : Type}
    {read : Node → Except RecordFault α} (hpath : Path.segments path = "te" :: front)
    (hfront : Untouched front) (hes : (Node.mapping es).WellKeyed)
    (hfield : ∀ v, (text field, v) ∈ es →
      Path.segments (Path.child path field) = "te" :: (front ++ [field]) → v.WellKeyed →
        ∃ v', Carried (Path.child path field) v v' ∧ Agree read v v')
    (hothers : ∀ key v, (text key, v) ∈ es → key ≠ field → ∀ keys,
      Untouched (front ++ [key] ++ keys)) :
    ∃ es', Carried path (.mapping es) (.mapping es') ∧
      Entries.Aligned (Record.SameBut field read) es es' := by
  refine exists_mapping hpath hfront hes fun key v hmem hchild hv => ?_
  by_cases hkey : key = field
  · subst hkey
    obtain ⟨v', hcarried, hread⟩ := hfield v hmem hchild hv
    exact ⟨v', hcarried, fun _ => hread, fun hne => absurd rfl hne⟩
  · have hstays := refl hchild hv fun t _ => hothers key v hmem hkey t.keys
    exact ⟨v, hstays, fun heq => absurd heq hkey, fun _ => rfl⟩

end Carried

/-! ## One level after the other -/

/-- An axis with a leaf right under the key of its values has nothing else. -/
theorem exists_values {n : Node} (hn : n.WellKeyed) (hlayout : Job.AxisLayout n) {t : Twig}
    (ht : t ∈ n.leaves) (hkeys : t.keys = ["values"]) :
    ∃ v, n = mapping [(text "values", v)] ∧ v.IsLeaf := by
  by_cases hmap : ∃ es, n = mapping es
  · obtain ⟨es, rfl⟩ := hmap
    have hes : es ≠ [] := by
      rintro rfl
      rw [IsLeaf.eq_of_mem leaves_mapping_nil ht] at hkeys
      simp at hkeys
    have hkey : ∀ e ∈ es, e.1 = text "values" := by
      intro e he
      obtain ⟨key, hkey, heq, -⟩ := hlayout es rfl e he
      rw [heq, List.mem_singleton.mp hkey]
    obtain ⟨v, rfl⟩ := hn.named.exists_singleton hes hkey
    rw [leaves_mapping hes, Entries.leaves_singleton] at ht
    obtain ⟨s, hs, rfl⟩ := List.mem_map.mp ht
    exact ⟨v, rfl, IsLeaf.of_keys_eq_nil hs (List.cons.inj hkeys).2⟩
  · rw [leaves_of_not_mapping fun es hes => hmap ⟨es, hes⟩, List.mem_singleton] at ht
    rw [ht] at hkeys
    simp at hkeys

theorem exists_axis {path name axis : String}
    (hpath : Path.segments path = ["te", name, "run", "iterate", axis]) {n : Node}
    (hn : n.WellKeyed) (hlayout : Job.AxisLayout n) :
    ∃ n', Carried path n n' ∧ ∀ key, Agree (Axis.ofEntry key) n n' := by
  by_cases hstays : ∀ t ∈ n.leaves, t.keys ≠ ["values"]
  · refine ⟨n, Carried.refl hpath hn fun t ht => ⟨?_, ?_, ?_⟩, fun key => Agree.refl _ n⟩
    · simp
    · simp
    · intro name' axis' heq
      have hkeys : name = name' ∧ axis = axis' ∧ t.keys = ["values"] := by simpa using heq
      exact hstays t ht hkeys.2.2
  · push Not at hstays
    obtain ⟨t, ht, hkeys⟩ := hstays
    -- the leaf that moves is the whole axis, so the axis becomes its values
    obtain ⟨v, rfl, hv⟩ := exists_values hn hlayout ht hkeys
    have hflat :
        (mapping [(text "values", v)]).flattenAt path = [⟨Path.child path "values", v⟩] := by
      rw [flattenAt_of_ne_empty (Carried.path_ne_empty hpath), leaves_mapping (by simp),
        Entries.leaves_singleton, hv]
      rfl
    have hchild : Path.segments (Path.child path "values") =
        ["te", name, "run", "iterate", axis, "values"] := by
      rw [Path.segments_child (Carried.path_ne_empty hpath) (by decide), hpath]
      rfl
    rcases Rule.Bundled.misses_or_moves hchild with
      hmisses | ⟨_, _, hbuild⟩ | ⟨_, _, _, hneeds, -⟩ |
      ⟨name', axis', place, hvalues, hplaces, hplace⟩
    · refine ⟨_, ⟨RuleSet.flatMap_writesOf fun leaf hleaf => ?_, hn⟩, fun key => Agree.refl _ _⟩
      rw [hflat, List.mem_singleton] at hleaf
      rw [hleaf]
      exact RuleSet.writesOf_of_misses hmisses
    · simp at hbuild
    · simp at hneeds
    · obtain ⟨rfl, rfl⟩ : name = name' ∧ axis = axis' := by simpa using hvalues
      have hsame : place = path := by
        rw [← Path.ofSegments_segments place, hplace, ← hpath, Path.ofSegments_segments]
      refine ⟨v, ⟨?_, hv.wellKeyed⟩, fun key => Axis.agree_values key v⟩
      rw [hflat, List.flatMap_singleton, RuleSet.writesOf_eq, hplaces, hsame,
        flattenAt_of_ne_empty (Carried.path_ne_empty hpath), hv]
      rfl

theorem exists_axes {path name : String}
    (hpath : Path.segments path = ["te", name, "run", "iterate"]) {n : Node} (hn : n.WellKeyed)
    (hlayout : Job.AxesLayout n) : ∃ n', Carried path n n' ∧ Agree Axis.ofNode n n' := by
  have hfront : Untouched [name, "run", "iterate"] := ⟨by simp, by simp, by simp⟩
  refine Carried.exists_of_mapping hpath hfront (Agree.refl _ n) ?_
  rintro es rfl
  obtain ⟨es', hcarried, hread⟩ := Carried.exists_mapping hpath hfront hn
    fun _ _ hmem hchild hv => exists_axis hchild hv (hlayout es rfl _ hmem)
  exact ⟨_, hcarried, Axis.agree_ofNode hread⟩

theorem exists_run {path name : String} (hpath : Path.segments path = ["te", name, "run"])
    {n : Node} (hn : n.WellKeyed) (hlayout : Job.RunLayout n) :
    ∃ n', Carried path n n' ∧ Agree (Record.optional RunSpec.ofNode) n n' := by
  have hfront : Untouched [name, "run"] := ⟨by simp, by simp, by simp⟩
  refine Carried.exists_of_mapping hpath hfront (Agree.refl _ n) ?_
  rintro es rfl
  have hothers : ∀ key v, (text key, v) ∈ es → key ≠ "iterate" → ∀ keys,
      Untouched ([name, "run"] ++ [key] ++ keys) := by
    intro key v hmem hne keys
    obtain ⟨hlisted, -⟩ := hlayout.of_mem hmem
    refine ⟨by simp, fun name' key' word heq => ?_, fun name' axis heq => ?_⟩
    · obtain ⟨-, rfl, -⟩ : name = name' ∧ key = key' ∧ keys = [word] := by simpa using heq
      constructor
      · rintro rfl
        exact absurd hlisted (by decide)
      · rintro rfl
        exact absurd hlisted (by decide)
    · have heq : name = name' ∧ key = "iterate" ∧ keys = [axis, "values"] := by simpa using heq
      exact hne heq.2.1
  obtain ⟨es', hcarried, hread⟩ := Carried.exists_record hpath hfront hn
    (fun v hmem hchild hv => exists_axes hchild hv ((hlayout.of_mem hmem).2 rfl)) hothers
  exact ⟨_, hcarried, Record.agree_optional (RunSpec.agree_ofNode hread)⟩

theorem exists_entry {path name : String} (hpath : Path.segments path = ["te", name])
    {n : Node} (hn : n.WellKeyed) (hlayout : Job.EntryLayout n) :
    ∃ n', Carried path n n' ∧ ∀ name, Agree (TestEntry.ofNode name) n n' := by
  have hfront : Untouched [name] := ⟨by simp, by simp, by simp⟩
  refine Carried.exists_of_mapping hpath hfront (fun _ => Agree.refl _ n) ?_
  rintro es rfl
  have hothers : ∀ key v, (text key, v) ∈ es → key ≠ "run" → ∀ keys,
      Untouched ([name] ++ [key] ++ keys) := by
    intro key v hmem hne keys
    obtain ⟨hlisted, -⟩ := hlayout.of_mem hmem
    refine ⟨fun name' more heq => ?_, fun name' key' word heq => ?_, fun name' axis heq => ?_⟩
    · obtain ⟨-, rfl, -⟩ : name = name' ∧ key = "build" ∧ keys = more := by simpa using heq
      exact absurd hlisted (by decide)
    · have heq : name = name' ∧ key = "run" ∧ keys = [key', word] := by simpa using heq
      exact absurd heq.2.1 hne
    · have heq : name = name' ∧ key = "run" ∧ keys = ["iterate", axis, "values"] := by
        simpa using heq
      exact hne heq.2.1
  obtain ⟨es', hcarried, hread⟩ := Carried.exists_record hpath hfront hn
    (fun v hmem hchild hv => exists_run hchild hv ((hlayout.of_mem hmem).2 rfl)) hothers
  exact ⟨_, hcarried, TestEntry.agree_ofNode hread⟩

theorem exists_suite {es : Entries} (hes : (mapping es).WellKeyed)
    (hlayout : Job.SuiteLayout (mapping es)) :
    ∃ es', Carried "te" (mapping es) (mapping es') ∧
      Entries.Aligned (fun _ v v' => ∀ name, Agree (TestEntry.ofNode name) v v') es es' :=
  Carried.exists_mapping rfl ⟨by simp, by simp, by simp⟩ hes fun _ _ hmem hchild hv =>
    exists_entry hchild hv (hlayout es rfl _ hmem)

/-- What stands under the kind of suites is dropped by no modifier. -/
theorem writesOf_ne_nil {leaf : Leaf} (h : (Path.segments leaf.path).head? = some "te") :
    rules.modifiers.writesOf leaf ≠ [] := by
  rw [RuleSet.writesOf]
  split
  · exact List.cons_ne_nil _ _
  · next rule captures hfound =>
      obtain ⟨m, hm, rfl, hsearch⟩ := Move.exists_of_find? hfound
      intro hnil
      rcases Rule.Bundled.targets_modifierMoves m hm with htargets | ⟨kind, hkind, hhead⟩
      · exact htargets (by simpa [Move.rule] using hnil)
      · have hfits := (Move.fits_source Rule.Bundled.isDotless_fragment
          (Rule.Bundled.isSound_modifierMoves m hm) hsearch).1
        have hte := hfits.head?_segments hhead
        rw [h, Option.some.injEq] at hte
        rw [← hte] at hkind
        exact absurd hkind (by decide)

/-- Migrating a suite of the current layout keeps its jobs: the document that
comes out holds a suite under its kind that expands as the one before, whatever
the suite's name, the compiler and the options. Nothing is dropped, and nothing
collides. -/
theorem bundled_convert_expandSuite :
    ∃ rules, RuleTable.bundled = .ok rules ∧
      ∀ es, (mapping es).WellKeyed → (∀ inner, es ≠ [(text "te", inner)]) →
        Job.SuiteLayout (mapping es) →
        ∀ suite compiler options jobs,
          Job.expandSuite suite (mapping es) compiler options = .ok jobs →
          ∀ policy, ∃ migrated report,
            convert (mapping es) .te rules policy =
              .ok (mapping [(text "te", migrated)], report) ∧
            report.collisions = [] ∧ report.dropped = [] ∧
            Job.expandSuite suite migrated compiler options = .ok jobs := by
  refine ⟨_, RuleTable.bundled_eq, fun es hes hnamed hlayout suite compiler options jobs hjobs
    policy => ?_⟩
  obtain ⟨es', hcarried, hread⟩ := exists_suite hes hlayout
  have hunder : flattenUnder .te (mapping es) = (mapping es).flattenAt "te" := by
    have hcarries : carriesKind .te (mapping es) = false := by
      rw [← Bool.not_eq_true, carriesKind_iff]
      rintro ⟨inner, heq⟩
      exact hnamed inner (Node.mapping.inj heq)
    rw [flattenUnder, hcarries]
    rfl
  have hwellKeyed : (mapping [(text "te", mapping es')]).WellKeyed :=
    WellKeyed.cons_iff.mpr ⟨⟨"te", rfl, by decide, rfl⟩, hcarried.wellKeyed,
      .mapping .nil (by simp)⟩
  have hflat :
      (mapping [(text "te", mapping es')]).flattenAt "" = (mapping es').flattenAt "te" := by
    rw [flattenAt_empty_path, flattenEntries, flattenEntries, List.append_nil]
    rfl
  have hkept : ∀ leaf ∈ flattenUnder .te (mapping es), rules.modifiers.writesOf leaf ≠ [] := by
    intro leaf hleaf
    have hhead : (Path.segments leaf.path).head? = some DocumentKind.te.name :=
      head?_segments_of_mem_flattenUnder hleaf
    exact writesOf_ne_nil hhead
  obtain ⟨misses, hconvert⟩ := convert_of_writes Rule.Bundled.isStable hwellKeyed (by simp)
    (by rw [hunder, hflat]; exact hcarried.moved) hkept policy
  exact ⟨mapping es', _, hconvert, rfl, rfl, Job.expandEntries_of_agree hread hjobs⟩

/-- A run with one axis, whose value stands under a key of its own. -/
theorem bundled_convert_expandSuite_axis :
    ∃ rules migrated report, RuleTable.bundled = .ok rules ∧
      convert (mapping [(text "t", mapping [(text "run", mapping [(text "iterate",
          mapping [(text "n", mapping [(text "values", text "1")])])])])]) .te rules .error =
        .ok (mapping [(text "te", migrated)], report) ∧
      report.collisions = [] ∧ report.dropped = [] ∧
      Job.expandSuite "s" migrated {} {} =
        .ok [⟨"s/t_n1", .run, "N=1 ./t", [], ⟨[("n", "1")]⟩⟩] := by
  have hwellKeyed : (chain ["t", "run", "iterate", "n", "values"] (text "1")).WellKeyed :=
    WellKeyed.chain (.leaf (by simp)) (by decide)
  have hlayout : Job.SuiteLayout (mapping [(text "t", mapping [(text "run",
      mapping [(text "iterate", mapping [(text "n",
        mapping [(text "values", text "1")])])])])]) := by
    simp [Job.SuiteLayout, Job.EntryLayout, Job.RunLayout, Job.AxesLayout, Job.AxisLayout, Job.Each,
      TestEntry.knownKeys]
  have hjobs : Job.expandSuite "s" (mapping [(text "t", mapping [(text "run",
      mapping [(text "iterate", mapping [(text "n", mapping [(text "values", text "1")])])])])])
        {} {} = .ok [⟨"s/t_n1", .run, "N=1 ./t", [], ⟨[("n", "1")]⟩⟩] :=
    eq_ok_of_toOption (by decide +kernel)
  obtain ⟨rules, hrules, hmigrates⟩ := bundled_convert_expandSuite
  obtain ⟨migrated, report, hresult⟩ :=
    hmigrates _ hwellKeyed (by simp) hlayout "s" {} {} _ hjobs .error
  exact ⟨rules, migrated, report, hrules, hresult⟩

end Migration

end Trialbook

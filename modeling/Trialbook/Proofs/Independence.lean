import Trialbook.Proofs.Deposits

/-!
# The entries of a suite migrate by themselves

No modifier gives a leaf of a suite to another entry, so what a migration leaves
under the name of an entry is a run of the writes of that entry alone, one that
begins with nothing (`Migration.laid_entry`). It is the same run in every suite
that has the entry.

A suite has to be read as one for that. An only entry that has the name of the
kind is taken for the kind, and its suite for a document that carries it.
-/

namespace Trialbook

open Node
open Rule.Bundled (sentTo depositsOf)

/-- The write seen from an entry of a suite, if it goes there. -/
def Deposit.inEntry? (name : String) (d : Deposit) : Option Deposit :=
  (d.below? "te").bind (Deposit.below? name)

/-- What is written for the leaves of an entry, seen from the entry. -/
def entryDeposits (name : String) (entry : Node) : List Deposit :=
  entry.leaves.flatMap fun t =>
    (sentTo ("te" :: name :: t.keys)).map fun place => ⟨place.1.drop 2, t.value, place.2⟩

theorem entryDeposits_ne_nil (name : String) (entry : Node) : entryDeposits name entry ≠ [] := by
  obtain ⟨t, rest, ht⟩ := List.exists_cons_of_ne_nil (leaves_ne_nil entry)
  obtain ⟨place, places, hplace⟩ :=
    List.exists_cons_of_ne_nil (Rule.Bundled.sentTo_te_ne_nil (name :: t.keys))
  rw [entryDeposits, ht, List.flatMap_cons, hplace]
  simp

/-! ## From a suite to an entry -/

theorem inEntry?_of_mem_sentTo {name key : String} {words : List String}
    {place : List String × Bool} (hplace : place ∈ sentTo ("te" :: key :: words)) (value : Node) :
    Deposit.inEntry? name ⟨place.1, value, place.2⟩ =
      if key = name then some ⟨place.1.drop 2, value, place.2⟩ else none := by
  obtain ⟨tail, htail, -⟩ := Rule.Bundled.exists_of_mem_sentTo_te place hplace
  rw [Deposit.inEntry?, Deposit.below?, htail]
  simp only [keysBelow?_self, Option.map_some, Option.bind_some, Deposit.below?]
  by_cases hkey : key = name
  · subst hkey
    simp
  · simp [keysBelow?_of_ne hkey, hkey]

/-- What is written for a leaf of an entry goes to that entry and to no other. -/
theorem filterMap_inEntry?_depositsOf (name key : String) (t : Twig) :
    (depositsOf ((t.under key).under "te")).filterMap (Deposit.inEntry? name) =
      if key = name then
        (sentTo ("te" :: name :: t.keys)).map fun place => ⟨place.1.drop 2, t.value, place.2⟩
      else [] := by
  have hplaces : ∀ place ∈ sentTo ("te" :: key :: t.keys),
      (Deposit.inEntry? name ∘ fun place : List String × Bool =>
        (⟨place.1, t.value, place.2⟩ : Deposit)) place =
      if key = name then some ⟨place.1.drop 2, t.value, place.2⟩ else none :=
    fun place hplace => inEntry?_of_mem_sentTo hplace t.value
  rw [depositsOf, List.filterMap_map, Twig.under_keys, Twig.under_keys, Twig.under_value,
    Twig.under_value, List.filterMap_congr hplaces]
  by_cases hkey : key = name
  · subst hkey
    simp
  · simp [hkey]

/-- The writes for the leaves of an entry, and of no other, go to the entry. -/
theorem filterMap_inEntry?_leaves (name key : String) (entry : Node) :
    ((entry.leaves.map (Twig.under key)).flatMap fun t => depositsOf (t.under "te")).filterMap
      (Deposit.inEntry? name) = if key = name then entryDeposits name entry else [] := by
  rw [List.flatMap_map, List.filterMap_flatMap,
    List.flatMap_congr fun t _ => filterMap_inEntry?_depositsOf name key t]
  by_cases hkey : key = name
  · simp [hkey, entryDeposits]
  · simp [hkey]

/-- Of all that is written for a suite, what is written for an entry goes to the
entry. -/
theorem Entries.filterMap_inEntry? {es : Entries} (hes : es.Named) (name : String) :
    ((leaves es).flatMap fun t => depositsOf (t.under "te")).filterMap (Deposit.inEntry? name) =
      (get? name es).elim [] (entryDeposits name) := by
  induction es with
  | nil => simp [get?]
  | cons e es ih =>
      obtain ⟨k, v⟩ := e
      obtain ⟨⟨key, rfl, -, hnone⟩, hrest⟩ := Named.cons_iff.mp hes
      have hfirst := filterMap_inEntry?_leaves name key v
      rw [leaves_cons, List.flatMap_append, List.filterMap_append, ih hrest, get?, isKey_text]
      refine (congrArg (· ++ _) hfirst).trans ?_
      by_cases hkey : key = name
      · subst hkey
        simp [hnone]
      · simp [hkey]

theorem Entries.keys_of_mem_depositsOf {es : Entries} {d : Deposit}
    (hd : d ∈ (leaves es).flatMap fun t => depositsOf (t.under "te")) :
    ∃ key tail, d.keys = "te" :: key :: tail := by
  obtain ⟨t, ht, hd⟩ := List.mem_flatMap.mp hd
  obtain ⟨e, -, s, -, rfl⟩ := mem_leaves.mp ht
  obtain ⟨place, hplace, rfl⟩ := List.mem_map.mp hd
  obtain ⟨tail, htail, -⟩ := Rule.Bundled.exists_of_mem_sentTo_te place hplace
  exact ⟨e.1.keyText, tail, htail⟩

namespace Migration

theorem carriesKind_eq_false {kind : DocumentKind} {es : Entries}
    (h : ∀ inner, es ≠ [(text kind.name, inner)]) : carriesKind kind (mapping es) = false := by
  rw [← Bool.not_eq_true, carriesKind_iff]
  rintro ⟨inner, heq⟩
  exact h inner (Node.mapping.inj heq)

/-- What a migration of a suite leaves under the name of an entry is what the
writes of that entry leave where nothing stood. -/
theorem laid_entry {es : Entries} {name : String} {entry result : Node} {report : Report}
    (hes : (mapping es).WellKeyed) (hbare : ∀ inner, es ≠ [(text "te", inner)])
    (hentry : Entries.get? name es = some entry)
    (h : convert (mapping es) .te Rule.Bundled.rules .overwrite = .ok (result, report)) :
    ∃ cs : List Clash, report.collisions = cs.map Clash.reported ∧
      Laid none (entryDeposits name entry) (result.at? ["te", name])
        (cs.filterMap fun c => (c.below? "te").bind (Clash.below? name)) := by
  have hne : es ≠ [] := by
    rintro rfl
    simp [Entries.get?] at hentry
  obtain ⟨cs, hlaid, hcollisions⟩ :=
    laid_of_convert (flattenUnder_of_not_carriesKind (carriesKind_eq_false hbare)) hes h
  have hname : DocumentKind.te.name = "te" := rfl
  rw [hname] at hlaid
  refine ⟨cs, hcollisions, ?_⟩
  rw [leaves_mapping hne, List.flatMap_map] at hlaid
  have hkind := hlaid.child (open_mapping []) (fun d hd => by
    obtain ⟨key, tail, hkeys⟩ := Entries.keys_of_mem_depositsOf hd
    rw [hkeys]
    exact List.cons_ne_nil _ _) "te"
  have hinner := hkind.child open_none (fun d hd => by
    obtain ⟨d', hd', hbelow⟩ := List.mem_filterMap.mp hd
    obtain ⟨key, tail, hkeys⟩ := Entries.keys_of_mem_depositsOf hd'
    rw [Deposit.below?, hkeys, keysBelow?_self] at hbelow
    rw [← Option.some.inj hbelow]
    exact List.cons_ne_nil _ _) name
  have hdeposits := Entries.filterMap_inEntry? hes.named name
  rw [hentry] at hdeposits
  rw [List.filterMap_filterMap, List.filterMap_filterMap] at hinner
  have hplace : childAt? (childAt? (some result) "te") name = result.at? ["te", name] :=
    (at?_concat result ["te"] name).symm ▸
      congrArg (childAt? · name) (at?_concat result [] "te").symm
  rw [hplace] at hinner
  rw [← show _ = entryDeposits name entry from hdeposits]
  exact hinner

/-- A suite comes out of a migration if it has no null and no mapping under a
tag. -/
theorem exists_convert_suite {es : Entries} (hes : (mapping es).WellKeyed)
    (hbare : ∀ inner, es ≠ [(text "te", inner)]) (hwalkable : (mapping es).Walkable) :
    ∃ result report,
      convert (mapping es) .te Rule.Bundled.rules .overwrite = .ok (result, report) :=
  exists_convert (flattenUnder_of_not_carriesKind (carriesKind_eq_false hbare)) hes
    fun t ht => Or.inr (hwalkable.isCarried t ht)

/-- The entries of a suite migrate by themselves: an entry that two suites have
in common comes out the same, whatever else is in them. Neither may be taken for
a document under its kind, and both have to come out, as every suite does that
has no null and no mapping under a tag. -/
theorem bundled_convert_entry_alone :
    ∃ rules, RuleTable.bundled = .ok rules ∧
      (∀ es, (mapping es).WellKeyed → (∀ inner, es ≠ [(text "te", inner)]) →
        (mapping es).Walkable →
        ∃ result report, convert (mapping es) .te rules .overwrite = .ok (result, report)) ∧
      ∀ es es' name entry result result' report report',
        (mapping es).WellKeyed → (mapping es').WellKeyed →
        (∀ inner, es ≠ [(text "te", inner)]) → (∀ inner, es' ≠ [(text "te", inner)]) →
        Entries.get? name es = some entry → Entries.get? name es' = some entry →
        convert (mapping es) .te rules .overwrite = .ok (result, report) →
        convert (mapping es') .te rules .overwrite = .ok (result', report') →
        ∃ moved, result.at? ["te", name] = some moved ∧ result'.at? ["te", name] = some moved := by
  refine ⟨_, RuleTable.bundled_eq, fun es => exists_convert_suite, ?_⟩
  intro es es' name entry result result' report report' hes hes' hbare hbare' hentry hentry'
    hconvert hconvert'
  obtain ⟨cs, -, hlaid⟩ := laid_entry hes hbare hentry hconvert
  obtain ⟨cs', -, hlaid'⟩ := laid_entry hes' hbare' hentry' hconvert'
  have hsome := hlaid.isSome (Or.inr (entryDeposits_ne_nil name entry))
  obtain ⟨moved, hmoved⟩ := Option.isSome_iff_exists.mp hsome
  exact ⟨moved, hmoved, (hlaid.unique hlaid').1.trans hmoved⟩

/-- An entry with a build section, by itself and in front of another entry. -/
theorem bundled_convert_entry_alone_build :
    ∃ rules result report report', RuleTable.bundled = .ok rules ∧
      convert (mapping [(text "a", mapping [(text "build", mapping [(text "files",
          text "a.c")])])]) .te rules .overwrite =
        .ok (mapping [(text "te", mapping [(text "a", mapping [(text "files", text "a.c")])])],
          report) ∧
      convert (mapping [(text "a", mapping [(text "build", mapping [(text "files",
          text "a.c")])]), (text "b", text "x")]) .te rules .overwrite = .ok (result, report') ∧
      result.at? ["te", "a"] = some (mapping [(text "files", text "a.c")]) := by
  obtain ⟨rules, hrules, hexists, halone⟩ := bundled_convert_entry_alone
  obtain rfl : Rule.Bundled.rules = rules := Except.ok.inj (RuleTable.bundled_eq.symm.trans hrules)
  have hchain : ∀ keys, (∀ key ∈ keys, Path.Dotless key) → ∀ name,
      (chain keys (text name)).WellKeyed := fun keys hkeys name =>
    WellKeyed.chain (.leaf (by simp)) hkeys
  have hkeyed : (mapping [(text "a", mapping [(text "build", mapping [(text "files",
      text "a.c")])])]).WellKeyed := hchain ["a", "build", "files"] (by decide) "a.c"
  have hkeyed' : (mapping [(text "a", mapping [(text "build", mapping [(text "files",
      text "a.c")])]), (text "b", text "x")]).WellKeyed := by
    exact WellKeyed.cons_iff.mpr ⟨⟨"a", rfl, by decide, rfl⟩,
      hchain ["build", "files"] (by decide) "a.c", hchain ["b"] (by decide) "x"⟩
  have hwrites : Rule.Bundled.rules.modifiers.writesOf ⟨"te.a.build.files", text "a.c"⟩ =
      [⟨"te.a.files", text "a.c", false⟩] := by
    have hplaces : sentTo (Path.segments "te.a.build.files") = [(["te", "a", "files"], false)] := by
      decide +kernel
    rw [Rule.Bundled.writesOf_modifiers, hplaces]
    rfl
  have hfirst : ∃ misses, convert (mapping [(text "a", mapping [(text "build", mapping [(text
      "files", text "a.c")])])]) .te Rule.Bundled.rules .overwrite =
      .ok (mapping [(text "te", mapping [(text "a", mapping [(text "files", text "a.c")])])],
        { misses }) := by
    refine convert_of_writes Rule.Bundled.isStable ?_ (by simp) ?_ ?_ .overwrite
    · exact hchain ["te", "a", "files"] (by decide) "a.c"
    · show [Leaf.mk "te.a.build.files" (text "a.c")].flatMap _ = _
      rw [List.flatMap_singleton, hwrites]
      rfl
    · show ∀ leaf ∈ [Leaf.mk "te.a.build.files" (text "a.c")], _
      intro leaf hleaf
      rw [List.mem_singleton.mp hleaf, hwrites]
      simp
  obtain ⟨misses, hfirst⟩ := hfirst
  obtain ⟨result, report', hsecond⟩ := hexists _ hkeyed' (by simp) (by
    intro t ht
    rcases List.mem_cons.mp ht with rfl | ht
    · simp [Twig.under, isTagged]
    · rw [List.mem_singleton.mp ht]
      simp [Twig.under, isTagged])
  obtain ⟨moved, hmoved, hmoved'⟩ := halone _ _ "a" _ _ _ _ _ hkeyed hkeyed' (by simp) (by simp)
    rfl rfl hfirst hsecond
  refine ⟨_, result, _, report', hrules, hfirst, hsecond, ?_⟩
  rw [hmoved', ← hmoved]
  rfl

/-- An entry with the name of the kind is an entry in a suite with others, and the
kind itself in a suite without. -/
theorem bundled_convert_entry_taken_for_kind :
    ∃ rules report report', RuleTable.bundled = .ok rules ∧
      (mapping [(text "te", mapping [(text "files", text "a.c")])]).WellKeyed ∧
      (mapping [(text "te", mapping [(text "files", text "a.c")]),
        (text "b", text "x")]).WellKeyed ∧
      convert (mapping [(text "te", mapping [(text "files", text "a.c")])]) .te rules .overwrite =
        .ok (mapping [(text "te", mapping [(text "files", text "a.c")])], report) ∧
      convert (mapping [(text "te", mapping [(text "files", text "a.c")]), (text "b", text "x")])
          .te rules .overwrite =
        .ok (mapping [(text "te", mapping [(text "te", mapping [(text "files", text "a.c")]),
          (text "b", text "x")])], report') ∧
      (mapping [(text "te", mapping [(text "files", text "a.c")])]).at? ["te", "te"] = none ∧
      (mapping [(text "te", mapping [(text "te", mapping [(text "files", text "a.c")]),
        (text "b", text "x")])]).at? ["te", "te"] =
          some (mapping [(text "files", text "a.c")]) := by
  have hchain : ∀ keys, (∀ key ∈ keys, Path.Dotless key) → ∀ name,
      (chain keys (text name)).WellKeyed := fun keys hkeys name =>
    WellKeyed.chain (.leaf (by simp)) hkeys
  have hkeyed : (mapping [(text "te", mapping [(text "files", text "a.c")])]).WellKeyed :=
    hchain ["te", "files"] (by decide) "a.c"
  have hkeyed' : (mapping [(text "te", mapping [(text "files", text "a.c")]),
      (text "b", text "x")]).WellKeyed :=
    WellKeyed.cons_iff.mpr ⟨⟨"te", rfl, by decide, rfl⟩, hchain ["files"] (by decide) "a.c",
      hchain ["b"] (by decide) "x"⟩
  have hkeyed'' : (mapping [(text "te", mapping [(text "te", mapping [(text "files", text "a.c")]),
      (text "b", text "x")])]).WellKeyed :=
    WellKeyed.cons_iff.mpr ⟨⟨"te", rfl, by decide, rfl⟩, hkeyed', .mapping .nil (by simp)⟩
  have hwrapped : ∃ misses, convert (mapping [(text "te", mapping [(text "files", text "a.c")])])
      .te Rule.Bundled.rules .overwrite =
      .ok (mapping [(text "te", mapping [(text "files", text "a.c")])], { misses }) :=
    convert_of_stays hkeyed (by simp) rfl (by decide +kernel) .overwrite
  have hbare : ∃ misses, convert (mapping [(text "te", mapping [(text "files", text "a.c")]),
      (text "b", text "x")]) .te Rule.Bundled.rules .overwrite =
      .ok (mapping [(text "te", mapping [(text "te", mapping [(text "files", text "a.c")]),
        (text "b", text "x")])], { misses }) :=
    convert_of_stays hkeyed'' (by simp) rfl (by decide +kernel) .overwrite
  obtain ⟨misses, hwrapped⟩ := hwrapped
  obtain ⟨misses', hbare⟩ := hbare
  exact ⟨_, _, _, RuleTable.bundled_eq, hkeyed, hkeyed', hwrapped, hbare, rfl, rfl⟩

end Migration

end Trialbook

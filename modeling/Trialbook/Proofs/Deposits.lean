import Trialbook.Proofs.Conservation
import Trialbook.Proofs.Locality
import Trialbook.Proofs.Matching

/-!
# A migration by the bundled rules, as one run of writes

The bundled rules are stable, so a migration is what its first rebuild makes, and
that is a run of writes that begins with an empty document. On segments the
modifiers are a short table (`Rule.Bundled.lanes`), and where the leaves of a
document are written can be read off it without a word about paths or patterns
(`Rule.Bundled.depositsOf`).

`Migration.laid_of_convert` and `Migration.exists_convert` put this together, for a
document under the name of its kind and without.
-/

namespace Trialbook

open Node

namespace Rule.Bundled

/-- The modifiers, segment by segment. -/
def lanes : List Lane := [
  ⟨[.fixed "compiler", .token "LANG", .fixed "program"],
    [([.fixed "compiler", .fixed "commands", .token "LANG"], false)]⟩,
  ⟨[.fixed "compiler", .token "LANG", .fixed "wrapper"], []⟩,
  ⟨[.fixed "compiler", .fixed "variants", .token "NAME", .fixed "options"],
    [([.fixed "compiler", .fixed "variants", .token "NAME", .fixed "args"], false)]⟩,
  ⟨[.fixed "runtime", .fixed "iterators", .token "ITER", .fixed "values"],
    [([.fixed "runtime", .fixed "iterate", .token "ITER"], false)]⟩,
  ⟨[.fixed "runtime", .fixed "plugin"], []⟩,
  ⟨[.fixed "environment", .token "SHELL", .token "VAR"],
    [([.fixed "environment", .token "VAR"], false)]⟩,
  ⟨[.fixed "te", .token "NAME", .fixed "build", .fixed "sources", .token "FIELD"],
    [([.fixed "te", .token "NAME", .token "FIELD"], false)]⟩,
  ⟨[.fixed "te", .token "NAME", .fixed "build", .token "FIELD"],
    [([.fixed "te", .token "NAME", .token "FIELD"], false)]⟩,
  ⟨[.fixed "te", .token "NAME", .token "PHASE", .fixed "depends_on", .token "DEP"],
    [([.fixed "te", .token "NAME", .fixed "depends_on", .token "DEP"], true)]⟩,
  ⟨[.fixed "te", .token "NAME", .token "PHASE", .fixed "package_manager", .token "PM"],
    [([.fixed "te", .token "NAME", .fixed "package_manager", .token "PM"], true)]⟩,
  ⟨[.fixed "te", .token "NAME", .fixed "run", .fixed "iterate", .token "ITER", .fixed "values"],
    [([.fixed "te", .token "NAME", .fixed "run", .fixed "iterate", .token "ITER"], false)]⟩]

theorem lane_modifierMoves : modifierMoves.map Move.lane = lanes := by decide +kernel

/-- The places that the modifiers send a path to, by its segments. -/
def sentTo (words : List String) : List (List String × Bool) := sends fragment lanes words

theorem segments_placesOf_modifiers (path : String) :
    (rules.modifiers.placesOf path).map (fun place => (Path.segments place.1, place.2)) =
      sentTo (Path.segments path) := by
  rw [sentTo, ← lane_modifierMoves]
  exact Move.segments_placesOf isDotless_fragment isSound_modifierMoves path

theorem writesOf_modifiers (leaf : Leaf) :
    rules.modifiers.writesOf leaf = (sentTo (Path.segments leaf.path)).map fun place =>
      ⟨Path.ofSegments place.1, leaf.value, place.2⟩ := by
  rw [RuleSet.writesOf_eq, ← segments_placesOf_modifiers, List.map_map]
  refine List.map_congr_left fun place _ => ?_
  rw [Function.comp_apply, Path.ofSegments_segments]

/-- What is written for a leaf. -/
def depositsOf (t : Twig) : List Deposit :=
  (sentTo t.keys).map fun place => ⟨place.1, t.value, place.2⟩

theorem map_deposit_writesOf (leaf : Leaf) :
    (rules.modifiers.writesOf leaf).map Write.deposit = depositsOf leaf.toTwig := by
  rw [depositsOf, Leaf.toTwig, ← segments_placesOf_modifiers, RuleSet.writesOf_eq, List.map_map,
    List.map_map]
  rfl

theorem map_deposit_flattenAt {kind : DocumentKind} {n : Node} (h : n.WellKeyed) :
    ((n.flattenAt kind.name).flatMap rules.modifiers.writesOf).map Write.deposit =
      (n.leaves.map (Twig.under kind.name)).flatMap depositsOf := by
  rw [← flattenAt_toTwig h (Migration.name_ne_empty kind) (Migration.dotless_name kind),
    List.map_flatMap, List.flatMap_map]
  exact List.flatMap_congr fun leaf _ => map_deposit_writesOf leaf

theorem accepts_name {name : String} (hname : name ≠ "") (hdot : Path.Dotless name) :
    (fragment "NAME").accepts name = true := by
  have hmany : fragment "NAME" = .many (.compl (.ranges [(46, 46)])) := rfl
  have hchar : ∀ c ∈ name.toList,
      (Pattern.CharSet.compl (.ranges [(46, 46)])).contains c.toNat = true := by
    intro c hc
    have hne : c.toNat ≠ '.'.toNat := fun h => hdot (Char.toNat_inj.mp h ▸ hc)
    have hpoint : '.'.toNat = 46 := rfl
    simp only [Pattern.CharSet.contains, Unicode.Ranges.contains]
    grind
  rw [hmany, Fragment.accepts, Bool.and_eq_true, List.all_eq_true]
  exact ⟨by simpa using hname, hchar⟩

theorem lanes_known : ∀ lane ∈ lanes, lane.source.names.Nodup ∧
    ∀ target ∈ lane.targets, ∀ name ∈ target.1.names, name ∈ lane.source.names := by
  decide +kernel

theorem sentTo_cases (words : List String) :
    sentTo words = [(words, false)] ∨
      ∃ lane ∈ lanes, lane.sends? fragment words = some (sentTo words) := by
  rw [sentTo, sends]
  cases h : lanes.findSome? (Lane.sends? fragment words) with
  | none => exact Or.inl rfl
  | some places =>
      obtain ⟨lane, hlane, hplaces⟩ := List.exists_of_findSome?_eq_some h
      exact Or.inr ⟨lane, hlane, hplaces⟩

/-- A place that a path is sent to is its own, or one that a modifier names for
the words that it reads in the path. -/
theorem mem_sentTo {words : List String} {place : List String × Bool} (h : place ∈ sentTo words) :
    place = (words, false) ∨ ∃ lane ∈ lanes, ∃ target ∈ lane.targets, ∃ captured,
      place.2 = target.2 ∧ List.Forall₂ (Place.Stands fragment captured) lane.source words ∧
        List.Forall₂ (Place.Stands fragment captured) target.1 place.1 := by
  rcases sentTo_cases words with hstays | ⟨lane, hlane, hsends⟩
  · rw [hstays] at h
    exact Or.inl (List.mem_singleton.mp h)
  · obtain ⟨hdistinct, hknown⟩ := lanes_known lane hlane
    obtain ⟨captured, hsource, hplaces⟩ := Lane.exists_stands hdistinct hknown hsends
    obtain ⟨target, htarget, happend, hwords⟩ := hplaces place h
    exact Or.inr ⟨lane, hlane, target, htarget, captured, happend, hsource, hwords⟩

/-- A modifier is for one kind, and in a suite it gives a leaf to some entry, and
to no other than its own. -/
theorem lanes_kept : ∀ lane ∈ lanes, lane.source.names.Nodup ∧
    ∃ text ∈ ["compiler", "runtime", "environment", "te"], lane.source.head? = some (.fixed text) ∧
      (text = "te" → lane.targets ≠ [] ∧ ∀ target ∈ lane.targets,
        target.1.take 2 = lane.source.take 2 ∧ 2 < target.1.length) := by
  decide +kernel

theorem head_eq_of_sends? {lane : Lane} {text word : String} {words : List String}
    {places : List (List String × Bool)} (hhead : lane.source.head? = some (.fixed text))
    (h : lane.sends? fragment (word :: words) = some places) : word = text := by
  obtain ⟨bound, hbound, -⟩ := Option.map_eq_some_iff.mp h
  generalize lane.source = shape at hhead hbound
  cases shape with
  | nil => simp at hhead
  | cons place shape =>
      obtain rfl : place = .fixed text := by simpa using hhead
      rw [Shape.bind?] at hbound
      split at hbound
      · assumption
      · simp at hbound

theorem exists_of_mem_sentTo_te {name : String} {words : List String} :
    ∀ place ∈ sentTo ("te" :: name :: words),
      ∃ tail, place.1 = "te" :: name :: tail ∧ (words ≠ [] → tail ≠ []) := by
  intro place hplace
  rcases sentTo_cases ("te" :: name :: words) with hstays | ⟨lane, hlane, hsends⟩
  · rw [hstays, List.mem_singleton] at hplace
    exact ⟨words, congrArg Prod.fst hplace, id⟩
  · obtain ⟨hdistinct, text, -, hhead, hte⟩ := lanes_kept lane hlane
    have htargets := (hte (head_eq_of_sends? hhead hsends).symm).2
    have htake := Lane.take_of_sends? hdistinct (fun target htarget => (htargets target htarget).1)
      hsends place hplace
    have hlength : 2 < place.1.length := by
      obtain ⟨bound, -, hplaces⟩ := Option.map_eq_some_iff.mp hsends
      rw [← hplaces] at hplace
      obtain ⟨target, htarget, rfl⟩ := List.mem_map.mp hplace
      rw [Shape.fill, List.length_map]
      exact (htargets target htarget).2
    generalize place.1 = keys at htake hlength ⊢
    obtain _ | ⟨key, _ | ⟨key', _ | ⟨next, keys⟩⟩⟩ := keys
    · simp at htake
    · simp at htake
    · simp at hlength
    · obtain ⟨rfl, rfl⟩ : key = "te" ∧ key' = name := by simpa using htake
      exact ⟨next :: keys, rfl, fun _ => List.cons_ne_nil _ _⟩

theorem sentTo_te_ne_nil (words : List String) : sentTo ("te" :: words) ≠ [] := by
  rcases sentTo_cases ("te" :: words) with hstays | ⟨lane, hlane, hsends⟩
  · rw [hstays]
    exact List.cons_ne_nil _ _
  · obtain ⟨-, text, -, hhead, hte⟩ := lanes_kept lane hlane
    obtain ⟨bound, -, hplaces⟩ := Option.map_eq_some_iff.mp hsends
    rw [← hplaces]
    simpa using (hte (head_eq_of_sends? hhead hsends).symm).1

end Rule.Bundled

namespace Migration

open Rule.Bundled (sentTo depositsOf)

theorem flattenUnder_of_not_carriesKind {kind : DocumentKind} {document : Node}
    (h : carriesKind kind document = false) :
    flattenUnder kind document = document.flattenAt kind.name := by
  rw [flattenUnder, h]
  rfl

theorem flattenUnder_wrapped (kind : DocumentKind) (inner : Node) :
    flattenUnder kind (mapping [(text kind.name, inner)]) = inner.flattenAt kind.name := by
  rw [flattenUnder, if_pos (carriesKind_iff.mpr ⟨inner, rfl⟩), flattenAt_empty_path,
    flattenEntries, flattenEntries, List.append_nil]
  rfl

/-- A document of which the modifiers send no leaf anywhere else. -/
theorem convert_of_stays {kind : DocumentKind} {document : Node} {es : Entries}
    (h : (mapping es).WellKeyed) (hkeys : ∀ e ∈ es, e.1 ≠ text "")
    (hflat : flattenUnder kind document = (mapping es).flattenAt "")
    (hstay : ∀ path ∈ ((mapping es).flattenAt "").map Leaf.path,
      sentTo (Path.segments path) = [(Path.segments path, false)]) (policy : CollisionPolicy) :
    ∃ misses, convert document kind Rule.Bundled.rules policy = .ok (mapping es, { misses }) := by
  have hwrites : ∀ leaf ∈ (mapping es).flattenAt "",
      Rule.Bundled.rules.modifiers.writesOf leaf = [leaf.toWrite] := by
    intro leaf hleaf
    rw [Rule.Bundled.writesOf_modifiers, hstay _ (List.mem_map_of_mem hleaf), List.map_singleton,
      Path.ofSegments_segments]
    rfl
  rw [← hflat] at hwrites
  refine convert_of_writes Rule.Bundled.isStable h hkeys ?_ (fun leaf hleaf => ?_) policy
  · rw [RuleSet.flatMap_writesOf hwrites, hflat]
  · rw [hwrites leaf hleaf]
    exact List.cons_ne_nil _ _

section

variable {kind : DocumentKind} {document n : Node}
  (hdocument : flattenUnder kind document = n.flattenAt kind.name) (hn : n.WellKeyed)

include hdocument hn

/-- What a migration by the bundled rules makes is laid down write by write. -/
theorem laid_of_convert {result : Node} {report : Report}
    (h : convert document kind Rule.Bundled.rules .overwrite = .ok (result, report)) :
    ∃ cs, Laid (some (mapping [])) ((n.leaves.map (Twig.under kind.name)).flatMap depositsOf)
        (some result) cs ∧
      report.collisions = cs.map Clash.reported := by
  have hbuilt := rebuild_of_convert Rule.Bundled.isStable h
  rw [hdocument] at hbuilt
  rw [← Rule.Bundled.map_deposit_flattenAt hn]
  exact Laid.of_rebuild hbuilt

/-- A document can be migrated if the leaves that are written can be walked
through. -/
theorem exists_convert
    (hcarried : ∀ t ∈ n.leaves, sentTo (kind.name :: t.keys) = [] ∨ t.value.IsCarried) :
    ∃ result report,
      convert document kind Rule.Bundled.rules .overwrite = .ok (result, report) := by
  have hws : ∀ w ∈ (flattenUnder kind document).flatMap Rule.Bundled.rules.modifiers.writesOf,
      w.value.IsCarried := by
    intro w hw
    rw [hdocument] at hw
    have hdeposit := List.mem_map_of_mem (f := Write.deposit) hw
    rw [Rule.Bundled.map_deposit_flattenAt hn] at hdeposit
    obtain ⟨t, ht, hmem⟩ := List.mem_flatMap.mp hdeposit
    obtain ⟨s, hs, rfl⟩ := List.mem_map.mp ht
    obtain ⟨place, hplace, heq⟩ := List.mem_map.mp hmem
    have hvalue : w.value = s.value := (congrArg Deposit.value heq).symm
    rcases hcarried s hs with hnone | hs
    · rw [Twig.under_keys, hnone] at hplace
      simp at hplace
    · exact hvalue ▸ hs
  obtain ⟨fs, cs, hbuilt, -⟩ := writeAll_conserves walkable_empty hws
  obtain ⟨report, hconvert, -⟩ := exists_convert_of_rebuild Rule.Bundled.isStable hbuilt
  exact ⟨_, report, hconvert⟩

end

end Migration

end Trialbook

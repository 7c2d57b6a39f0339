import Trialbook.Document.Rebuild
import Trialbook.Node.OneOrMany
import Trialbook.Proofs.Paths
import Trialbook.Proofs.Walk
import Mathlib.Data.List.Flatten

/-!
# Appending one or many

A place that only appends go to holds one list, the items of all that was appended,
and nothing is displaced on the way (`rebuild_appends`). Where a document may give one
text or a list of them, that list reads as the values did, one after the other. There
is one exception (`rebuild_appends_oneOrMany`). Alone a null is no text at all, and as
an item of a list it is the text of a null. Appending makes an item of it.

A document with nothing but appends at one path is a chain of mappings that leads to
the list, so that the induction is on the keys for one write and on the values for the
run.
-/

namespace Trialbook

namespace Node

/-! ## Reading -/

/-- One text or a list of them: an untagged scalar, which a null is too, or an
untagged list of such. -/
inductive IsOneOrMany : Node → Prop
  | one {n : Node} (h : n.scalarText?.isSome = true) : IsOneOrMany n
  | many {items : List Node} (h : ∀ item ∈ items, item.scalarText?.isSome = true) :
      IsOneOrMany (sequence items)

theorem itemTexts_eq {place : String} {index : Nat} {items : List Node}
    (h : ∀ item ∈ items, item.scalarText?.isSome = true) :
    itemTexts place index items = .ok (items.filterMap scalarText?) := by
  induction items generalizing index with
  | nil => rfl
  | cons item rest ih =>
      obtain ⟨hitem, hrest⟩ := List.forall_mem_cons.mp h
      obtain ⟨s, hs⟩ := Option.isSome_iff_exists.mp hitem
      rw [itemTexts, hs, List.filterMap_cons_some hs]
      dsimp only
      rw [ih hrest]
      rfl

/-- One or many texts are those of the items that a node contributes as the start of a
list. -/
theorem IsOneOrMany.oneOrMany_eq {n : Node} (h : n.IsOneOrMany) (place : String) :
    n.oneOrMany place = .ok (n.asItems.filterMap scalarText?) := by
  cases h with
  | many hitems => exact itemTexts_eq hitems
  | one hscalar =>
      obtain ⟨s, hs⟩ := Option.isSome_iff_exists.mp hscalar
      cases n with
      | null => rfl
      | bool | number | text =>
          rw [oneOrMany, asItems, List.filterMap_cons_some hs, hs]
          all_goals simp
      | sequence | mapping | tagged => simp [scalarText?] at hs

/-- The items that one or many texts add to a list are scalars. -/
theorem IsOneOrMany.isSome_of_mem_splice {n : Node} (h : n.IsOneOrMany) :
    ∀ item ∈ n.splice, item.scalarText?.isSome = true := by
  cases h with
  | many hitems => exact hitems
  | one hscalar =>
      cases n with
      | null | bool | number | text =>
          intro item hitem
          rwa [List.mem_singleton.mp hitem]
      | sequence | mapping | tagged => simp [scalarText?] at hscalar

theorem splice_of_ne_null {n : Node} (h : n ≠ null) : n.splice = n.asItems := by
  cases n with
  | null => exact absurd rfl h
  | bool | number | text | sequence | mapping | tagged => rfl

theorem asItems_sublist_splice (n : Node) : n.asItems.Sublist n.splice := by
  cases n with
  | null => exact List.nil_sublist _
  | bool | number | text | sequence | mapping | tagged => exact .refl _

/-- A null among the values adds a text that it does not have alone. -/
theorem length_texts_lt {values : List Node} (h : null ∈ values) :
    ((values.flatMap asItems).filterMap scalarText?).length <
      ((values.flatMap splice).filterMap scalarText?).length := by
  have hle : ∀ values : List Node, ((values.flatMap asItems).filterMap scalarText?).length ≤
      ((values.flatMap splice).filterMap scalarText?).length := fun values =>
    ((List.Sublist.flatMap_right values fun v _ => asItems_sublist_splice v).filterMap _).length_le
  obtain ⟨before, after, rfl⟩ := List.append_of_mem h
  have hbefore := hle before
  have hafter := hle after
  simp only [List.flatMap_append, List.flatMap_cons, asItems, splice, List.nil_append,
    List.filterMap_append, List.length_append, List.singleton_append,
    List.filterMap_cons_some (show scalarText? null = some "null" from rfl), List.length_cons]
  omega

/-! ## Appending -/

/-- At the end of a chain a list takes the items of a value, and nothing else
changes. -/
theorem writeAt_chain_append {keys : List String} (hkeys : keys ≠ []) (items : List Node)
    (value : Node) :
    writeAt value true keys (chain keys (sequence items)) =
      some ⟨chain keys (sequence (items ++ value.splice)), none⟩ := by
  induction keys with
  | nil => exact absurd rfl hkeys
  | cons key rest ih =>
      cases rest with
      | nil =>
          have hpresent :
              Entries.get? key [(text key, sequence items)] = some (sequence items) := by
            simp [Entries.get?]
          rw [writeAt_singleton, chain_cons, chain, writeLast_mapping,
            Entries.place_joined hpresent rfl]
          simp [Entries.set, appended, asItems, chain]
      | cons next others =>
          have hrest := List.cons_ne_nil next others
          have hpresent : Entries.get? key [(text key, chain (next :: others) (sequence items))] =
              some (chain (next :: others) (sequence items)) := by simp [Entries.get?]
          rw [chain_cons key, writeAt_mapping_old hpresent hrest, ih hrest]
          simp [Entries.set, chain_cons key]

variable {policy : CollisionPolicy} {path : String}

theorem writeAll_chain_append (items values : List Node) :
    (chain (Path.segments path) (sequence items)).writeAll policy
        (values.map fun v => ⟨path, v, true⟩) =
      .ok (chain (Path.segments path) (sequence (items ++ values.flatMap splice)), []) := by
  induction values generalizing items with
  | nil => simp [writeAll]
  | cons v rest ih =>
      rw [List.map_cons, writeAll, write_eq, writeAt_chain_append (Path.segments_ne_nil path)]
      simpa using ih (items ++ v.splice)

end Node

open Node

/-- Appends to one path build a document of their items in one list, or none at all
if nothing is appended. -/
theorem rebuild_appends (policy : CollisionPolicy) (path : String) (values : List Node) :
    ∃ document, rebuild policy (values.map fun v => ⟨path, v, true⟩) = .ok (document, []) ∧
      document.at? (Path.segments path) =
        if values = [] then none else some (sequence (values.flatMap splice)) := by
  cases values with
  | nil =>
      obtain ⟨key, rest, hkeys⟩ := List.exists_cons_of_ne_nil (Path.segments_ne_nil path)
      refine ⟨mapping [], rfl, ?_⟩
      rw [hkeys]
      exact at?_of_get?_none rfl rest
  | cons v rest =>
      obtain ⟨key, others, hkeys⟩ := List.exists_cons_of_ne_nil (Path.segments_ne_nil path)
      have hfirst : (mapping []).write ⟨path, v, true⟩ =
          some (chain (Path.segments path) (sequence v.splice), none) := by
        rw [write_eq, hkeys, writeAt_mapping_new rfl]
        rfl
      refine ⟨_, ?_, at?_chain _ _⟩
      rw [rebuild, List.map_cons, writeAll, hfirst]
      exact writeAll_chain_append v.splice rest

/-- What appends to one path leave there reads as the texts of their values, one after
the other, if and only if none of the values is null. A null adds the text of a null,
where there was none. -/
theorem rebuild_appends_oneOrMany (policy : CollisionPolicy) (path : String) {values : List Node}
    (hvalues : ∀ v ∈ values, v.IsOneOrMany) (place : String) :
    ∃ document lists texts,
      rebuild policy (values.map fun v => ⟨path, v, true⟩) = .ok (document, []) ∧
      values.mapM (oneOrMany place) = .ok lists ∧
      ((document.at? (Path.segments path)).getD null).oneOrMany place = .ok texts ∧
      texts = (values.flatMap splice).filterMap scalarText? ∧
      (texts = lists.flatten ↔ null ∉ values) := by
  obtain ⟨document, hrebuild, hfound⟩ := rebuild_appends policy path values
  have hlists : values.mapM (oneOrMany place) =
      .ok (values.map fun v => v.asItems.filterMap scalarText?) := by
    clear hrebuild hfound
    induction values with
    | nil => rfl
    | cons v rest ih =>
        obtain ⟨hv, hrest⟩ := List.forall_mem_cons.mp hvalues
        rw [List.mapM_cons, hv.oneOrMany_eq, ih hrest]
        rfl
  have hflatten : (values.map fun v => v.asItems.filterMap scalarText?).flatten =
      (values.flatMap asItems).filterMap scalarText? := by
    rw [List.filterMap_flatMap, List.flatMap]
  refine ⟨document, _, _, hrebuild, hlists, ?_, rfl, ?_⟩
  · rw [hfound]
    by_cases hempty : values = []
    · rw [if_pos hempty, hempty]
      rfl
    · rw [if_neg hempty]
      refine itemTexts_eq fun item hitem => ?_
      obtain ⟨v, hv, hitem⟩ := List.mem_flatMap.mp hitem
      exact (hvalues v hv).isSome_of_mem_splice item hitem
  · rw [hflatten]
    constructor
    · intro heq hnull
      have hlt := length_texts_lt hnull
      rw [heq] at hlt
      exact Nat.lt_irrefl _ hlt
    · intro hnull
      have hsame : ∀ v ∈ values, v.splice = v.asItems := fun v hv =>
        splice_of_ne_null fun heq => hnull (heq ▸ hv)
      rw [List.flatMap_congr hsame]

/-- One text, a list with a null in it, and a number, appended in turn. -/
theorem rebuild_appends_oneOrMany_mixed :
    ∃ document, rebuild .error [⟨"a.b", text "x", true⟩,
        ⟨"a.b", sequence [text "y", null], true⟩, ⟨"a.b", number (.int 1), true⟩] =
        .ok (document, []) ∧
      ((document.at? ["a", "b"]).getD null).oneOrMany "a.b" = .ok ["x", "y", "null", "1"] := by
  have hvalues : ∀ v ∈ [text "x", sequence [text "y", null], number (.int 1)], v.IsOneOrMany := by
    simp only [List.forall_mem_cons, List.not_mem_nil, false_imp_iff, implies_true, and_true]
    exact ⟨.one rfl, .many (by decide), .one rfl⟩
  obtain ⟨document, lists, texts, hrebuild, -, htexts, rfl, -⟩ :=
    rebuild_appends_oneOrMany .error "a.b" hvalues "a.b"
  exact ⟨document, hrebuild, htexts⟩

/-- A null that is appended reads as a text, and none was there to read. -/
theorem rebuild_appended_null :
    ∃ document, rebuild .error [⟨"a", null, true⟩] = .ok (document, []) ∧
      ((document.at? (Path.segments "a")).getD null).oneOrMany "a" = .ok ["null"] ∧
      [null].mapM (oneOrMany "a") = .ok [[]] ∧ ["null"] ≠ ([[]] : List (List String)).flatten :=
  ⟨mapping [(text "a", sequence [null])], rfl, rfl, rfl, by simp⟩

end Trialbook

import Trialbook.Proofs.Conservation
import Trialbook.Proofs.Policy

/-!
# Where a write has no outcome

A write makes mappings of the nulls that it has to go through, and it cannot do so
under a tag. That is the only thing that stops it, and whether it happens can be
told from the document before the write (`write_eq_none_iff`): what the write
itself puts in its way is never tagged.

A migration builds its documents from nothing. As long as no leaf that it moves is
tagged there is no such null in any of them, whatever the rules render for paths,
and the only failure left is the collision that the strict policy asks for.
-/

namespace Trialbook

namespace Node

variable {value : Node} {append : Bool}

/-- Whether the node is a null under a tag. -/
def isTaggedNull (n : Node) : Bool := n.isTagged && n.isNull

/-- Whether the walk along the keys comes to a tagged null before its last key. -/
def IsBlocked (keys : List String) (n : Node) : Prop :=
  ∃ depth, depth + 2 ≤ keys.length ∧
    ∃ found, n.at? (keys.take depth) = some found ∧ found.isTaggedNull = true

theorem isBlocked_cons {key : String} {rest : List String} (hrest : rest ≠ []) {n : Node} :
    n.IsBlocked (key :: rest) ↔
      n.isTaggedNull = true ∨ ∃ inner, n.child? key = some inner ∧ inner.IsBlocked rest := by
  have hlength := List.length_pos_iff.mpr hrest
  constructor
  · rintro ⟨depth, hdepth, found, hfound, hnull⟩
    cases depth with
    | zero =>
        obtain rfl := Option.some.inj hfound
        exact Or.inl hnull
    | succ depth =>
        rw [List.take_succ_cons, at?_cons, Option.bind_eq_some_iff] at hfound
        obtain ⟨inner, hinner, hfound⟩ := hfound
        rw [List.length_cons] at hdepth
        exact Or.inr ⟨inner, hinner, depth, by omega, found, hfound, hnull⟩
  · rintro (hnull | ⟨inner, hinner, depth, hdepth, found, hfound, hnull⟩)
    · exact ⟨0, by rw [List.length_cons]; omega, n, rfl, hnull⟩
    · refine ⟨depth + 1, by rw [List.length_cons]; omega, found, ?_, hnull⟩
      rw [List.take_succ_cons, at?_cons, hinner]
      exact hfound

theorem not_isBlocked_of_length_le {keys : List String} (h : keys.length ≤ 1) (n : Node) :
    ¬ n.IsBlocked keys := by
  rintro ⟨depth, hdepth, -⟩
  omega

theorem not_isBlocked_null (keys : List String) : ¬ null.IsBlocked keys := by
  rintro ⟨depth, -, found, hfound, hnull⟩
  cases hkeys : keys.take depth with
  | nil =>
      rw [hkeys] at hfound
      obtain rfl := Option.some.inj hfound
      exact Bool.false_ne_true hnull
  | cons key rest =>
      rw [hkeys, at?_cons, child?, untag_null] at hfound
      simp at hfound

theorem isTaggedNull_of_mapping {n : Node} {es : Entries} (h : n.untag = mapping es) :
    n.isTaggedNull = false := by
  rw [isTaggedNull, isNull, h, Bool.and_false]

/-- A walk goes on at every node but a tagged null. -/
theorem writeAt_eq_none_iff {keys : List String} {n : Node} :
    writeAt value append keys n = none ↔ n.IsBlocked keys := by
  induction keys generalizing n with
  | nil =>
      rw [writeAt]
      exact iff_of_false (by simp) (not_isBlocked_of_length_le (by simp) n)
  | cons key rest ih =>
      by_cases hrest : rest = []
      · subst hrest
        rw [writeAt_singleton]
        exact iff_of_false (by simp) (not_isBlocked_of_length_le (by simp) n)
      rw [isBlocked_cons hrest]
      cases hmap : n.isMapping with
      | true =>
          obtain ⟨es, hes⟩ := isMapping_iff.mp hmap
          rw [writeAt_of_mapping hes hrest, Option.map_eq_none_iff, ih,
            isTaggedNull_of_mapping hes, child?_of_untag hes]
          -- what is not there yet is walked through as a null
          cases Entries.get? key es with
          | none => simpa using not_isBlocked_null rest
          | some inner => simp
      | false =>
          have hchild : n.child? key = none := by
            rw [child?]
            split
            · next es hes => rw [isMapping_iff.mpr ⟨es, hes⟩] at hmap; simp at hmap
            · rfl
          rw [hchild]
          cases hblocked : n.isTaggedNull with
          | true =>
              rw [isTaggedNull, Bool.and_eq_true] at hblocked
              rw [writeAt_taggedNull hblocked.2 hblocked.1 hrest]
              simp
          | false =>
              have hnull : n.isTagged = true → n.isNull = false := by
                intro htag
                rwa [isTaggedNull, htag, Bool.true_and] at hblocked
              rw [writeAt_of_untraced (List.cons_ne_nil key rest) hmap hnull]
              simp

theorem write_eq_none_iff {root : Node} {w : Write} :
    root.write w = none ↔ root.IsBlocked (Path.segments w.path) := by
  rw [write_eq, Option.map_eq_none_iff, writeAt_eq_none_iff]

end Node

namespace Migration

open Node

/-- Without tagged leaves both rebuilds of a migration come to an end. -/
theorem exists_convert_of_untagged {document : Node} {kind : DocumentKind}
    (huntagged : ∀ leaf ∈ flattenUnder kind document, leaf.value.isTagged = false)
    (rules : RuleTable) :
    ∃ result report, convert document kind rules .overwrite = .ok (result, report) := by
  have hflat : ∀ leaf ∈ flattenUnder kind document, leaf.value.IsCarried := by
    intro leaf hleaf
    obtain ⟨t, ht, rfl⟩ := mem_flattenAt hleaf
    exact .of_untagged (IsLeaf.of_mem_leaves t ht) (huntagged _ hleaf)
  obtain ⟨staged, first, hfirst, hstaged, -⟩ := rebuild_conserves rules.modifiers hflat
  obtain ⟨result, second, hsecond, -⟩ :=
    rebuild_conserves rules.terminal (hstaged.isCarried_flattenAt "")
  exact ⟨_, _, convert_ok hfirst hsecond⟩

/-- A write has no outcome if and only if a tagged null stands at some of the first
segments of its path, with two segments or more to go. A migration of a document
without tagged leaves, by any rules, makes no such write: it comes to a document, or
to a collision if the policy is the strict one. -/
theorem convert_never_aborts :
    (∀ (root : Node) (w : Write), root.write w = none ↔
      ∃ depth, depth + 2 ≤ (Path.segments w.path).length ∧
        ∃ found, root.at? ((Path.segments w.path).take depth) = some found ∧
          found.isTagged = true ∧ found.isNull = true) ∧
    ∀ (document : Node) (kind : DocumentKind) (rules : RuleTable),
      (∀ leaf ∈ flattenUnder kind document, leaf.value.isTagged = false) →
      (∃ result report, convert document kind rules .overwrite = .ok (result, report)) ∧
      ((∃ result report, convert document kind rules .error = .ok (result, report)) ∨
        ∃ path, convert document kind rules .error = .error (.collision path)) := by
  refine ⟨fun root w => ?_, fun document kind rules huntagged => ?_⟩
  · rw [write_eq_none_iff, IsBlocked]
    simp only [isTaggedNull, Bool.and_eq_true]
  · obtain ⟨result, report, hconvert⟩ := exists_convert_of_untagged huntagged rules
    refine ⟨⟨result, report, hconvert⟩, ?_⟩
    rw [convert_error hconvert]
    cases report.collisions with
    | nil => exact Or.inl ⟨result, report, rfl⟩
    | cons c cs => exact Or.inr ⟨c.path, rfl⟩

/-- A null that the second leaf is written through, and the same null under a tag. -/
theorem convert_never_aborts_through_null :
    (∀ leaf ∈ flattenUnder .te (mapping [(text "a", null), (text "a.b.c", text "x")]),
      leaf.value.isTagged = false) ∧
    ((∃ result report, convert (mapping [(text "a", null), (text "a.b.c", text "x")]) .te
        ⟨[], []⟩ .overwrite = .ok (result, report)) ∧
      ∃ result report, convert (mapping [(text "a", null), (text "a.b.c", text "x")]) .te
        ⟨[], []⟩ .error = .ok (result, report)) ∧
    (mapping [(text "te", mapping [(text "a", tagged ⟨"t"⟩ null)])]).write
      ⟨"te.a.b.c", text "x", false⟩ = none := by
  have huntagged : ∀ leaf ∈ flattenUnder .te
      (mapping [(text "a", null), (text "a.b.c", text "x")]), leaf.value.isTagged = false := by
    show ∀ leaf ∈ [Leaf.mk "te.a" null, Leaf.mk "te.a.b.c" (text "x")], _
    simp [isTagged]
  obtain ⟨hblocked, hends⟩ := convert_never_aborts
  obtain ⟨hlenient, hstrict | ⟨path, hstrict⟩⟩ := hends _ .te ⟨[], []⟩ huntagged
  · exact ⟨huntagged, ⟨hlenient, hstrict⟩, (hblocked _ _).mpr ⟨2, by decide, _, rfl, rfl, rfl⟩⟩
  · have hdone : (convert (mapping [(text "a", null), (text "a.b.c", text "x")]) .te ⟨[], []⟩
        .error).isOk = true := by decide +kernel
    rw [hstrict] at hdone
    exact absurd hdone Bool.false_ne_true

end Migration

end Trialbook

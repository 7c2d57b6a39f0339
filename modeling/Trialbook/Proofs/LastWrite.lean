import Trialbook.Proofs.Paths
import Trialbook.Proofs.Walk

/-!
# When a write is found again

A write without append puts its value at its path and leaves it there to be
found, whatever stood in the way: missing keys, nulls, leaves, and tags at
every node the walk goes through. There is one exception. A walk whose last
parent is a mapping under a tag stops there, changes nothing and reports
nothing.

`Node.parentTagged` is that exception as a test on the document before the
write. The two walk lemmas cover its two answers, and `write_found_iff` puts
them together: the test decides whether the value is found, unless the
document held it already.
-/

namespace Trialbook

namespace Entries

theorem place_false (key : String) (value : Node) (es : Entries) :
    (place key value false es).1 = set key value es := by
  cases h : get? key es with
  | none => rw [place_of_get?_none h, set_of_get?_none h]; rfl
  | some present => rw [place_over h (by simp)]; rfl

end Entries

namespace Node

/-- Whether the last parent on the way down the keys is a mapping under a tag. -/
def parentTagged (root : Node) (keys : List String) : Bool :=
  (root.at? keys.dropLast).any fun parent => parent.isMapping && parent.isTagged

theorem child?_eq_some_iff {n inner : Node} {key : String} :
    n.child? key = some inner ↔
      ∃ es, n.untag = mapping es ∧ Entries.get? key es = some inner := by
  constructor
  · intro h
    rw [child?] at h
    split at h
    · next es hes => exact ⟨es, hes, h⟩
    · simp at h
  · rintro ⟨es, hes, h⟩
    rw [child?_of_untag hes, h]

theorem parentTagged_singleton (n : Node) (key : String) :
    n.parentTagged [key] = (n.isMapping && n.isTagged) := rfl

theorem parentTagged_cons {n : Node} {key : String} {rest : List String}
    (hrest : rest ≠ []) :
    n.parentTagged (key :: rest) = (n.child? key).any fun inner => inner.parentTagged rest := by
  rw [parentTagged, List.dropLast_cons_of_ne_nil hrest, at?_cons]
  cases n.child? key <;> rfl

/-- The walk that ends at a tagged mapping leaves no trace. -/
theorem writeAt_of_parentTagged {value : Node} {append : Bool} {keys : List String}
    {n : Node} (hkeys : keys ≠ []) (h : n.parentTagged keys = true) :
    writeAt value append keys n = some ⟨n, none⟩ := by
  induction keys generalizing n with
  | nil => exact absurd rfl hkeys
  | cons key rest ih =>
      by_cases hrest : rest = []
      · subst hrest
        rw [parentTagged_singleton, Bool.and_eq_true] at h
        rw [writeAt_singleton, writeLast_tagged h.2 h.1]
      · rw [parentTagged_cons hrest, Option.any_eq_true] at h
        obtain ⟨inner, hchild, hinner⟩ := h
        obtain ⟨es, hes, hget⟩ := child?_eq_some_iff.mp hchild
        rw [writeAt_of_mapping hes hrest, hget, Option.getD_some, ih hrest hinner,
          Option.map_some, Entries.set_get? hget, ← hes, retag_untag]
        rfl

/-- Every other walk that comes to an end leaves the value at its end. -/
theorem at?_writeAt {value : Node} {keys : List String} {n : Node} {w : Written}
    (hkeys : keys ≠ []) (hparent : n.parentTagged keys = false)
    (h : writeAt value false keys n = some w) : w.node.at? keys = some value := by
  induction keys generalizing n w with
  | nil => exact absurd rfl hkeys
  | cons key rest ih =>
      cases hmap : n.isMapping with
      | true =>
          obtain ⟨es, hes⟩ := isMapping_iff.mp hmap
          by_cases hrest : rest = []
          · subst hrest
            rw [parentTagged_singleton, hmap, Bool.true_and] at hparent
            have hn : n = mapping es := by rw [← hes, untag_of_not_tagged hparent]
            rw [hn, writeAt_singleton, writeLast_mapping, Option.some.injEq] at h
            rw [← h, Entries.place_false, at?_cons, child?_mapping, Entries.get?_set_self]
            rfl
          · rw [writeAt_of_mapping hes hrest, Option.map_eq_some_iff] at h
            obtain ⟨inner, hinner, rfl⟩ := h
            rw [at?_cons, child?_retag, child?_mapping, Entries.get?_set_self, Option.bind_some]
            -- a key that is not there is walked as a null, where no parent is tagged
            cases hget : Entries.get? key es with
            | none =>
                rw [hget, Option.getD_none, writeAt_null value false hrest,
                  Option.some.injEq] at hinner
                rw [← hinner]
                exact at?_chain rest value
            | some c =>
                rw [hget, Option.getD_some] at hinner
                rw [parentTagged_cons hrest, child?_of_untag hes, hget,
                  Option.any_some] at hparent
                exact ih hrest hparent hinner
      | false =>
          cases hnull : n.isNull with
          | false =>
              rw [writeAt_leaf hmap hnull hkeys, Option.some.injEq] at h
              rw [← h]
              exact at?_chain _ value
          | true =>
              by_cases hrest : rest = []
              · subst hrest
                rw [writeAt_singleton, writeLast_of_not_mapping hmap, Option.some.injEq] at h
                rw [← h]
                exact at?_chain _ value
              · cases htag : n.isTagged with
                | true => rw [writeAt_taggedNull hnull htag hrest] at h; simp at h
                | false =>
                    rw [writeAt_of_not_mapping hmap htag hkeys, Option.some.injEq] at h
                    rw [← h]
                    exact at?_chain _ value

/-- A write that comes to an end is found at its path if its last parent was no
mapping under a tag, and only then unless the value was there before. In the
other case nothing is written and no collision is reported. -/
theorem write_found_iff {root node : Node} {w : Write} {collision : Option Collision}
    (happend : w.append = false) (h : root.write w = some (node, collision)) :
    (node.at? (Path.segments w.path) = some w.value ↔
      root.parentTagged (Path.segments w.path) = false ∨
        root.at? (Path.segments w.path) = some w.value) ∧
    (root.parentTagged (Path.segments w.path) = true → node = root ∧ collision = none) := by
  have hkeys := Path.segments_ne_nil w.path
  rw [write_eq, happend, Option.map_eq_some_iff] at h
  obtain ⟨written, hw, hpair⟩ := h
  obtain ⟨rfl, rfl⟩ := Prod.mk.inj hpair
  cases hparent : root.parentTagged (Path.segments w.path) with
  | false => simp [at?_writeAt hkeys hparent hw]
  | true =>
      rw [writeAt_of_parentTagged hkeys hparent, Option.some.injEq] at hw
      subst hw
      simp

/-- A tagged mapping in the middle of the path, and a null below it. -/
theorem write_found_through_tag :
    (mapping [(text "a", tagged ⟨"t"⟩ (mapping [(text "b", null)]))]).write
        ⟨"a.b.c", bool true, false⟩ =
      some (mapping [(text "a",
        tagged ⟨"t"⟩ (mapping [(text "b", mapping [(text "c", bool true)])]))], none) ∧
    (mapping [(text "a",
      tagged ⟨"t"⟩ (mapping [(text "b", mapping [(text "c", bool true)])]))]).at?
        (Path.segments "a.b.c") = some (bool true) := by
  have hwrite : (mapping [(text "a", tagged ⟨"t"⟩ (mapping [(text "b", null)]))]).write
      ⟨"a.b.c", bool true, false⟩ =
    some (mapping [(text "a",
      tagged ⟨"t"⟩ (mapping [(text "b", mapping [(text "c", bool true)])]))], none) := rfl
  exact ⟨hwrite, (write_found_iff rfl hwrite).1.mpr (Or.inl rfl)⟩

/-- Into a mapping under a tag nothing is written, so the value is not found. -/
theorem write_into_tagged_mapping_lost :
    ¬ ∀ (root node : Node) (w : Write) (collision : Option Collision), w.append = false →
      root.write w = some (node, collision) →
      node.at? (Path.segments w.path) = some w.value := by
  intro h
  have hlost := h (tagged ⟨"t"⟩ (mapping [])) (tagged ⟨"t"⟩ (mapping []))
    ⟨"a", bool true, false⟩ none rfl rfl
  rw [show Path.segments "a" = ["a"] from rfl, at?_cons, child?_of_untag rfl] at hlost
  simp [Entries.get?] at hlost

end Node

end Trialbook

import Trialbook.Document.Write
import Mathlib.Data.List.Basic

/-!
# Looking things up in a document

What a document holds is read off through two small functions, `Entries.get?`
for one key and `Node.at?` for a path. This file states how `Entries.set` is
seen through the first, and what tags do to the second: nothing, since both
looking up and growing a mapping reach through them.

`Entries.eq_append_of_get?` is the form in which most later proofs use an
entry that is there. It takes the entries apart around it, so that a `set` on
its key is a change in one place and an induction over entries never has to be
repeated.
-/

namespace Trialbook

/-! ## Tags -/

namespace Node

@[simp] theorem untag_null : untag null = null := by rw [untag]; simp

@[simp] theorem untag_mapping (es : Entries) : (mapping es).untag = mapping es := by
  rw [untag]; simp

@[simp] theorem untag_tagged (t : Tag) (n : Node) : (tagged t n).untag = n.untag := by
  rw [untag]

theorem untag_of_not_tagged {n : Node} (h : n.isTagged = false) : n.untag = n := by
  cases n with
  | tagged t inner => simp [isTagged] at h
  | null | bool | number | text | sequence | mapping => rw [untag]; simp

theorem untag_retag (shell n : Node) : (shell.retag n).untag = n.untag := by
  match shell with
  | tagged t inner => rw [retag, untag_tagged]; exact untag_retag inner n
  | null | bool _ | number _ | text _ | sequence _ | mapping _ => rw [retag]; simp

theorem retag_of_not_tagged {shell : Node} (h : shell.isTagged = false) (n : Node) :
    shell.retag n = n := by
  cases shell with
  | tagged t inner => simp [isTagged] at h
  | null | bool | number | text | sequence | mapping => rw [retag]; simp

theorem retag_untag (n : Node) : n.retag n.untag = n := by
  match n with
  | tagged t inner => rw [untag_tagged, retag, retag_untag inner]
  | null | bool _ | number _ | text _ | sequence _ | mapping _ =>
      rw [retag_of_not_tagged rfl, untag_of_not_tagged rfl]

theorem isMapping_iff {n : Node} : n.isMapping = true ↔ ∃ es, n.untag = mapping es := by
  rw [isMapping]
  split
  · next es h => simp [h]
  · next h => simp only [Bool.false_eq_true, false_iff, not_exists]; exact h

theorem isNull_iff {n : Node} : n.isNull = true ↔ n.untag = null := by
  rw [isNull]
  split
  · next h => simp [h]
  · next h => simp only [Bool.false_eq_true, false_iff]; exact h

/-- A null that is not under a tag. -/
theorem eq_null_of_isNull {n : Node} (hnull : n.isNull = true)
    (htag : n.isTagged = true → n.isNull = false) : n = null := by
  have hplain : n.isTagged = false := by
    by_contra hne
    rw [htag (by simpa using hne)] at hnull
    simp at hnull
  rw [← untag_of_not_tagged hplain, isNull_iff.mp hnull]

theorem eq_mapping_of_isMapping {n : Node} (hmap : n.isMapping = true)
    (htag : n.isTagged = false) : ∃ es, n = mapping es := by
  obtain ⟨es, h⟩ := isMapping_iff.mp hmap
  exact ⟨es, by rw [← h, untag_of_not_tagged htag]⟩

theorem ne_mapping {n : Node} (h : n.isMapping = false) : ∀ es, n ≠ mapping es := by
  rintro es rfl
  simp [isMapping] at h

theorem isKey_iff {key : String} {k : Node} : k.isKey key = true ↔ k = text key := by
  cases k <;> simp [isKey]

@[simp] theorem isKey_text (key name : String) : (text name).isKey key = (name == key) := rfl

end Node

/-! ## One key -/

namespace Entries

theorem get?_eq_none_iff {key : String} {es : Entries} :
    get? key es = none ↔ ∀ e ∈ es, e.1 ≠ .text key := by
  induction es with
  | nil => simp [get?]
  | cons e es ih =>
      rw [get?]
      split
      · next h => simp [Node.isKey_iff.mp h]
      · next h => simpa [ih, Node.isKey_iff] using fun _ => h

/-- Where an entry is found, none of those before it has its key. -/
theorem eq_append_of_get? {key : String} {n : Node} {es : Entries}
    (h : get? key es = some n) :
    ∃ before after, es = before ++ (.text key, n) :: after ∧ get? key before = none := by
  induction es with
  | nil => simp [get?] at h
  | cons e es ih =>
      rw [get?] at h
      split at h
      · next hk =>
          injection h with h
          exact ⟨[], es, by rw [← Node.isKey_iff.mp hk, ← h]; rfl, rfl⟩
      · next hk =>
          obtain ⟨before, after, rfl, hnone⟩ := ih h
          refine ⟨e :: before, after, rfl, ?_⟩
          rw [get?, if_neg hk, hnone]

theorem mem_of_get? {key : String} {n : Node} {es : Entries} (h : get? key es = some n) :
    (.text key, n) ∈ es := by
  obtain ⟨before, after, rfl, _⟩ := eq_append_of_get? h
  simp

theorem get?_append_of_none {key : String} {es fs : Entries} (h : get? key es = none) :
    get? key (es ++ fs) = get? key fs := by
  induction es with
  | nil => rfl
  | cons e es ih =>
      rw [get?] at h
      split at h
      · simp at h
      · next hk => rw [List.cons_append, get?, if_neg hk, ih h]

theorem set_append_of_none {key : String} {es : Entries} (h : get? key es = none)
    (fs : Entries) (n : Node) : set key n (es ++ fs) = es ++ set key n fs := by
  induction es with
  | nil => rfl
  | cons e es ih =>
      rw [get?] at h
      split at h
      · simp at h
      · next hk => rw [List.cons_append, set, if_neg hk, ih h, List.cons_append]

theorem set_of_get?_none {key : String} {es : Entries} (h : get? key es = none) (n : Node) :
    set key n es = es ++ [(.text key, n)] := by
  simpa [set] using set_append_of_none h [] n

/-- A key that is there keeps its place. -/
theorem set_append_cons {key : String} {before : Entries} (h : get? key before = none)
    (after : Entries) (old n : Node) :
    set key n (before ++ (.text key, old) :: after) = before ++ (.text key, n) :: after := by
  rw [set_append_of_none h, set, if_pos (by simp)]

@[simp] theorem get?_set_self (key : String) (n : Node) (es : Entries) :
    get? key (set key n es) = some n := by
  induction es with
  | nil => simp [set, get?]
  | cons e es ih =>
      rw [set]
      split
      · next h => rw [get?, if_pos h]
      · next h => rw [get?, if_neg h, ih]

@[simp] theorem set_set (key : String) (m n : Node) (es : Entries) :
    set key n (set key m es) = set key n es := by
  induction es with
  | nil => simp [set]
  | cons e es ih =>
      rw [set]
      split
      · next h => rw [set, if_pos h, set, if_pos h]
      · next h => rw [set, if_neg h, ih, set, if_neg h]

theorem set_get? {key : String} {n : Node} {es : Entries} (h : get? key es = some n) :
    set key n es = es := by
  obtain ⟨before, after, rfl, hnone⟩ := eq_append_of_get? h
  exact set_append_cons hnone after n n

theorem set_ne_nil (key : String) (n : Node) (es : Entries) : set key n es ≠ [] := by
  cases es with
  | nil => simp [set]
  | cons e es => rw [set]; split <;> simp

end Entries

/-! ## A path -/

namespace Node

/-- The node at the end of a walk down the given keys, through tags. -/
def at? (n : Node) : List String → Option Node
  | [] => some n
  | key :: rest => (n.child? key).bind fun inner => inner.at? rest

@[simp] theorem at?_nil (n : Node) : n.at? [] = some n := rfl

theorem at?_cons (n : Node) (key : String) (rest : List String) :
    n.at? (key :: rest) = (n.child? key).bind fun inner => inner.at? rest := rfl

theorem child?_of_untag {n : Node} {es : Entries} (h : n.untag = mapping es) (key : String) :
    n.child? key = Entries.get? key es := by
  rw [child?, h]

@[simp] theorem child?_mapping (es : Entries) (key : String) :
    (mapping es).child? key = Entries.get? key es :=
  child?_of_untag (untag_mapping es) key

theorem at?_of_get? {key : String} {inner : Node} {es : Entries}
    (h : Entries.get? key es = some inner) (path : List String) :
    (mapping es).at? (key :: path) = inner.at? path := by
  rw [at?_cons, child?_mapping, h]
  rfl

theorem at?_of_get?_none {key : String} {es : Entries} (h : Entries.get? key es = none)
    (path : List String) : (mapping es).at? (key :: path) = none := by
  rw [at?_cons, child?_mapping, h]
  rfl

theorem child?_retag (shell n : Node) (key : String) :
    (shell.retag n).child? key = n.child? key := by
  rw [child?, child?, untag_retag]

end Node

end Trialbook

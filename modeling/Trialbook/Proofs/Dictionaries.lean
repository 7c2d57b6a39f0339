import Trialbook.Record.Decode
import Mathlib.Data.String.Basic
import Mathlib.Data.List.Perm.Basic

/-!
# Dictionaries

Looking a key up after an insertion takes no thought of the order in which a
dictionary keeps its entries. Which entries it has does: they are in order as long
as the dictionary began empty, and an insertion finds the place of its key.

`Dictionary.Holds` says that a dictionary is the one of some pairs, and reading a
dictionary from the entries of a mapping ends with it (`Record.exists_dictionary`).
-/

namespace Trialbook

namespace Text.Dictionary

theorem lookup_cons_eq (key k v : String) (entries : List (String × String)) :
    ((k, v) :: entries).lookup key = if key = k then some v else entries.lookup key := by
  rw [List.lookup_cons]
  by_cases h : key = k
  · simp [h]
  · rw [if_neg h, beq_false_of_ne h]

theorem lookup_insertEntry (key value other : String) (entries : List (String × String)) :
    (insertEntry key value entries).lookup other =
      if other = key then some value else entries.lookup other := by
  induction entries with
  | nil => rw [insertEntry, lookup_cons_eq]
  | cons e rest ih =>
      obtain ⟨k, v⟩ := e
      rw [insertEntry]
      by_cases hk : key = k
      · subst hk
        rw [if_pos rfl, lookup_cons_eq, lookup_cons_eq]
        by_cases h : other = key <;> simp only [h, if_true, if_false]
      · rw [if_neg hk]
        split
        · rw [lookup_cons_eq]
        · rw [lookup_cons_eq, lookup_cons_eq, ih]
          by_cases h : other = key
          · rw [if_neg (h.trans_ne hk), if_pos h, if_pos h]
          · rw [if_neg h, if_neg h]

theorem get?_insert (d : Dictionary) (key value other : String) :
    (d.insert key value).get? other = if other = key then some value else d.get? other :=
  lookup_insertEntry key value other d.entries

theorem get?_insert_self (d : Dictionary) (key value : String) :
    (d.insert key value).get? key = some value := by
  rw [get?_insert, if_pos rfl]

theorem mem_keys {d : Dictionary} {key : String} : key ∈ d.keys ↔ (d.get? key).isSome = true := by
  rw [keys, get?, List.lookup_isSome_iff]
  simp

/-- The dictionary of some pairs: their entries, in the order of the keys. -/
structure Holds (d : Dictionary) (pairs : List (String × String)) : Prop where
  sorted : d.entries.Pairwise fun a b => a.1 < b.1
  entries : d.entries.Perm pairs

theorem holds_empty : ({} : Dictionary).Holds [] := ⟨.nil, .refl _⟩

theorem mem_insertEntry {key value : String} {entries : List (String × String)}
    {e : String × String} (h : e ∈ insertEntry key value entries) :
    e = (key, value) ∨ e ∈ entries := by
  induction entries with
  | nil => simpa [insertEntry] using h
  | cons first rest ih =>
      rw [insertEntry] at h
      split at h
      · rcases List.mem_cons.mp h with h | h
        · exact Or.inl h
        · exact Or.inr (List.mem_cons_of_mem _ h)
      · split at h
        · exact List.mem_cons.mp h
        · rcases List.mem_cons.mp h with h | h
          · exact Or.inr (h ▸ List.mem_cons_self)
          · exact (ih h).imp_right (List.mem_cons_of_mem _)

theorem perm_insertEntry {key value : String} {entries : List (String × String)}
    (hnew : key ∉ entries.map Prod.fst) :
    (insertEntry key value entries).Perm ((key, value) :: entries) := by
  induction entries with
  | nil => exact .refl _
  | cons first rest ih =>
      rw [List.map_cons, List.mem_cons, not_or] at hnew
      rw [insertEntry, if_neg hnew.1]
      split
      · exact .refl _
      · exact ((ih hnew.2).cons first).trans (.swap _ _ _)

theorem sorted_insertEntry (key value : String) {entries : List (String × String)}
    (h : entries.Pairwise fun a b => a.1 < b.1) :
    (insertEntry key value entries).Pairwise fun a b => a.1 < b.1 := by
  induction entries with
  | nil => exact List.pairwise_singleton _ _
  | cons first rest ih =>
      obtain ⟨hfirst, hrest⟩ := List.pairwise_cons.mp h
      rw [insertEntry]
      split
      · next hkey => exact List.pairwise_cons.mpr ⟨fun e he => hkey ▸ hfirst e he, hrest⟩
      · next hkey =>
          split
          · next hlt =>
              refine List.pairwise_cons.mpr ⟨fun e he => ?_, h⟩
              rcases List.mem_cons.mp he with rfl | he
              · exact hlt
              · exact lt_trans hlt (hfirst e he)
          · next hnot =>
              refine List.pairwise_cons.mpr ⟨fun e he => ?_, ih hrest⟩
              rcases mem_insertEntry he with rfl | he
              · exact lt_of_le_of_ne (not_lt.mp hnot) (Ne.symm hkey)
              · exact hfirst e he

/-- A pair with a new key joins the pairs of a dictionary. -/
theorem Holds.insert {d : Dictionary} {pairs : List (String × String)} (h : d.Holds pairs)
    {key : String} (hnew : key ∉ pairs.map Prod.fst) (value : String) :
    (d.insert key value).Holds (pairs ++ [(key, value)]) := by
  have hkeys : key ∉ d.entries.map Prod.fst := fun hmem =>
    hnew ((h.entries.map Prod.fst).mem_iff.mp hmem)
  refine ⟨sorted_insertEntry key value h.sorted, (perm_insertEntry hkeys).trans ?_⟩
  exact ((h.entries.cons _).trans (List.perm_append_singleton _ _).symm)

/-- Pairs with keys of their own, one after the other. -/
theorem Holds.insertAll {d : Dictionary} {before pairs : List (String × String)}
    (h : d.Holds before) (hkeys : ((before ++ pairs).map Prod.fst).Nodup) :
    (pairs.foldl (fun d p => d.insert p.1 p.2) d).Holds (before ++ pairs) := by
  induction pairs generalizing before d with
  | nil => rwa [List.append_nil]
  | cons p pairs ih =>
      have hnew : p.1 ∉ before.map Prod.fst := by
        rw [List.map_append, List.nodup_append] at hkeys
        exact fun hmem => hkeys.2.2 _ hmem p.1 (by simp) rfl
      rw [List.append_cons] at hkeys ⊢
      exact ih (h.insert hnew p.2) hkeys

theorem holds_ofList {pairs : List (String × String)} (hkeys : (pairs.map Prod.fst).Nodup) :
    (ofList pairs).Holds pairs :=
  holds_empty.insertAll hkeys

theorem lookup_of_nodup {entries : List (String × String)} (h : (entries.map Prod.fst).Nodup) :
    ∀ entry ∈ entries, entries.lookup entry.1 = some entry.2 := by
  intro entry hentry
  obtain ⟨front, back, rfl⟩ := List.append_of_mem hentry
  rw [List.map_append, List.map_cons, List.nodup_append] at h
  refine List.lookup_eq_some_iff.mpr ⟨front, back, rfl, fun other hother => ?_⟩
  simpa using (h.2.2 other.1 (List.mem_map_of_mem hother) entry.1 List.mem_cons_self).symm

theorem Holds.get?_of_mem {d : Dictionary} {pairs : List (String × String)} (h : d.Holds pairs)
    {p : String × String} (hp : p ∈ pairs) : d.get? p.1 = some p.2 := by
  have hkeys : (d.entries.map Prod.fst).Nodup := List.pairwise_map.mpr (h.sorted.imp ne_of_lt)
  exact lookup_of_nodup hkeys p (h.entries.mem_iff.mpr hp)

theorem lookup_eq_none_of_lt {key : String} {entries : List (String × String)}
    (h : ∀ e ∈ entries, key < e.1) : entries.lookup key = none := by
  rw [List.lookup_eq_none_iff]
  exact fun e he => by simpa using (ne_of_lt (h e he))

theorem le_of_lookup_cons {key k v value : String} {entries : List (String × String)}
    (h : ∀ e ∈ entries, k < e.1) (hvalue : ((k, v) :: entries).lookup key = some value) :
    k ≤ key := by
  rw [lookup_cons_eq] at hvalue
  split at hvalue
  · next hkey => exact hkey ▸ le_refl _
  · obtain ⟨before, after, rfl, -⟩ := List.lookup_eq_some_iff.mp hvalue
    exact le_of_lt (h (key, value) (by simp))

/-- In order, entries are determined by what can be looked up in them. -/
theorem eq_of_lookup_eq {entries entries' : List (String × String)}
    (h : entries.Pairwise fun a b => a.1 < b.1) (h' : entries'.Pairwise fun a b => a.1 < b.1)
    (hlookup : ∀ key, entries.lookup key = entries'.lookup key) : entries = entries' := by
  induction entries generalizing entries' with
  | nil =>
      cases entries' with
      | nil => rfl
      | cons e rest =>
          obtain ⟨k, v⟩ := e
          simpa using hlookup k
  | cons e rest ih =>
      obtain ⟨k, v⟩ := e
      cases entries' with
      | nil => simpa using hlookup k
      | cons e' rest' =>
          obtain ⟨k', v'⟩ := e'
          obtain ⟨hfirst, hrest⟩ := List.pairwise_cons.mp h
          obtain ⟨hfirst', hrest'⟩ := List.pairwise_cons.mp h'
          have hv : ((k', v') :: rest').lookup k = some v := by rw [← hlookup]; simp
          have hv' : ((k, v) :: rest).lookup k' = some v' := by rw [hlookup]; simp
          obtain rfl := le_antisymm (le_of_lookup_cons hfirst hv') (le_of_lookup_cons hfirst' hv)
          obtain rfl : v = v' := by simpa using hv'
          refine congrArg _ (ih hrest hrest' fun key => ?_)
          by_cases hkey : key = k
          · rw [hkey, lookup_eq_none_of_lt hfirst, lookup_eq_none_of_lt hfirst']
          · have hother := hlookup key
            rwa [lookup_cons_eq, lookup_cons_eq, if_neg hkey, if_neg hkey] at hother

end Text.Dictionary

namespace Record

open Text (Dictionary)

theorem dictionaryFrom_eq {read : Node → Except RecordFault String} {es : Entries}
    {pairs : List (String × String)}
    (hread : List.Forall₂ (fun e p => e.1 = .text p.1 ∧ read e.2 = .ok p.2) es pairs)
    (d : Dictionary) :
    dictionaryFrom read es d = .ok (pairs.foldl (fun d p => d.insert p.1 p.2) d) := by
  induction hread generalizing d with
  | nil => rfl
  | @cons e p es pairs first _ ih =>
      obtain ⟨k, v⟩ := e
      obtain ⟨name, value⟩ := p
      obtain ⟨rfl, hvalue⟩ := first
      show (do dictionaryFrom read es (d.insert name (← read v))) = _
      rw [show read v = .ok value from hvalue]
      exact ih (d.insert name value)

/-- A dictionary is read from entries with distinct keys. -/
theorem exists_dictionary {read : Node → Except RecordFault String} {es : Entries}
    {pairs : List (String × String)}
    (hread : List.Forall₂ (fun e p => e.1 = .text p.1 ∧ read e.2 = .ok p.2) es pairs)
    (hkeys : (pairs.map Prod.fst).Nodup) :
    ∃ d, dictionary read (.mapping es) = .ok d ∧ d.Holds pairs :=
  ⟨_, dictionaryFrom_eq hread {}, Dictionary.holds_empty.insertAll hkeys⟩

end Record

end Trialbook

import Trialbook.Proofs.Locality

/-!
# Writes that meet nothing

Where writes go to keys of their own, none of them displaces anything, and what
they leave is a list of entries in the order of the writes (`Laid.append_entries`).
That is the case at the bottom of a document. Further up the same few keys come
again and again, and there it is enough to know which keys there are in the end
(`Laid.exists_named`) and that all that is displaced is displaced below one of
them (`Laid.eq_nil_of_below`).

A place with nothing in it is as good as an empty mapping (`Laid.of_none`).
-/

namespace Trialbook

open Node

namespace Deposit

/-- The first key on the way of a write. -/
def key (d : Deposit) : String := d.keys.headD ""

/-- What a write leaves in a mapping that has not got its key. -/
def entry (d : Deposit) : Node × Node := (text d.key, chain d.keys.tail (d.value.fresh d.append))

theorem keys_eq {d : Deposit} (h : d.keys ≠ []) : d.keys = d.key :: d.keys.tail := by
  rw [key]
  cases hkeys : d.keys with
  | nil => exact absurd hkeys h
  | cons first rest => rfl

theorem put_mapping_eq {d : Deposit} (h : d.keys ≠ []) (es : Entries) :
    d.put (some (mapping es)) =
      (put { d with keys := d.keys.tail } (Entries.get? d.key es)).map fun w =>
        ⟨mapping (Entries.set d.key w.node es), w.clash.map (Clash.under d.key)⟩ := by
  obtain ⟨keys, value, append⟩ := d
  obtain ⟨first, rest, rfl⟩ := List.exists_cons_of_ne_nil h
  exact put_mapping first rest value append es

/-- A write to a new key of a mapping. -/
theorem put_new {d : Deposit} (h : d.keys ≠ []) {es : Entries}
    (hnew : Entries.get? d.key es = none) :
    d.put (some (mapping es)) = some ⟨mapping (es ++ [d.entry]), none⟩ := by
  rw [put_mapping_eq h, hnew, put_none, Option.map_some, Entries.set_of_get?_none hnew]
  rfl

end Deposit

namespace Entries

theorem mem_set {key : String} {n : Node} {es : Entries} {e : Node × Node}
    (h : e ∈ set key n es) : e.1 = text key ∨ e ∈ es := by
  cases hold : get? key es with
  | none =>
      rw [set_of_get?_none hold, List.mem_append, List.mem_singleton] at h
      rcases h with h | rfl
      · exact Or.inr h
      · exact Or.inl rfl
  | some old =>
      obtain ⟨before, after, rfl, hnone⟩ := eq_append_of_get? hold
      rw [set_append_cons hnone, List.mem_append, List.mem_cons] at h
      rcases h with h | rfl | h
      · exact Or.inr (by simp [h])
      · exact Or.inl rfl
      · exact Or.inr (by simp [h])

theorem Named.set {es : Entries} (h : es.Named) {key : String} (hkey : Path.Dotless key)
    (n : Node) : (Entries.set key n es).Named := by
  cases hold : get? key es with
  | none =>
      rw [set_of_get?_none hold]
      exact h.append_new hkey hold n
  | some old => exact h.set_old hold n

end Entries

namespace Laid

variable {es : Entries} {ds : List Deposit} {place : Option Node} {cs : List Clash}

/-- Writes that go further down do not tell nothing from an empty mapping. -/
theorem of_none (h : Laid none ds place cs) (hds : ds ≠ []) (hkeys : ∀ d ∈ ds, d.keys ≠ []) :
    Laid (some (mapping [])) ds place cs := by
  cases h with
  | nil => exact absurd rfl hds
  | @cons _ _ d ds w cs first others =>
      have hd := hkeys d List.mem_cons_self
      refine .cons ?_ others
      rw [Deposit.put_new hd rfl, ← first, Deposit.put_none]
      conv => rhs; rw [Deposit.keys_eq hd]
      rfl

/-- Writes to new keys, each to one of its own, leave one entry each. -/
theorem append_entries (h : Laid (some (mapping es)) ds place cs) (hkeys : ∀ d ∈ ds, d.keys ≠ [])
    (hnew : ∀ d ∈ ds, Entries.get? d.key es = none) (hapart : (ds.map Deposit.key).Nodup) :
    place = some (mapping (es ++ ds.map Deposit.entry)) ∧ cs = [] := by
  induction ds generalizing es cs with
  | nil =>
      cases h
      rw [List.map_nil, List.append_nil]
      exact ⟨rfl, rfl⟩
  | cons d ds ih =>
      rw [List.map_cons, List.nodup_cons] at hapart
      cases h with
      | cons first others =>
          rw [Deposit.put_new (hkeys d List.mem_cons_self) (hnew d List.mem_cons_self),
            Option.some.injEq] at first
          subst first
          obtain ⟨hplace, rfl⟩ := ih others (fun d' hd' => hkeys d' (List.mem_cons_of_mem _ hd'))
            (fun d' hd' => by
              have hne : d.key ≠ d'.key := fun heq =>
                hapart.1 (heq ▸ List.mem_map_of_mem hd')
              rw [Entries.get?_append_of_none (hnew d' (List.mem_cons_of_mem _ hd'))]
              simp [Entries.get?, Deposit.entry, hne]) hapart.2
          rw [hplace, List.append_assoc, List.map_cons]
          exact ⟨rfl, rfl⟩

/-- The keys of a mapping after writes to it are those it had and those of the
writes, and whatever is displaced is displaced below one of these. -/
theorem exists_named (h : Laid (some (mapping es)) ds place cs)
    (hkeys : ∀ d ∈ ds, d.keys ≠ [] ∧ Path.Dotless d.key) (hes : es.Named) :
    ∃ es' : Entries, place = some (mapping es') ∧ es'.Named ∧
      (∀ e ∈ es', e ∈ es ∨ ∃ d ∈ ds, e.1 = text d.key) ∧
      ∀ c ∈ cs, ∃ d ∈ ds, ∃ rest, c.segments = d.key :: rest := by
  induction ds generalizing es cs with
  | nil =>
      cases h
      exact ⟨es, rfl, hes, fun e he => Or.inl he, by simp⟩
  | cons d ds ih =>
      obtain ⟨hd, hdot⟩ := hkeys d List.mem_cons_self
      cases h with
      | cons first others =>
          rw [Deposit.put_mapping_eq hd, Option.map_eq_some_iff] at first
          obtain ⟨v, -, rfl⟩ := first
          obtain ⟨es', hplace, hnamed, hmem, hcs⟩ := ih others
            (fun d' hd' => hkeys d' (List.mem_cons_of_mem _ hd')) (hes.set hdot v.node)
          refine ⟨es', hplace, hnamed, fun e he => ?_, fun c hc => ?_⟩
          · rcases hmem e he with hset | ⟨d', hd', hkey⟩
            · rcases Entries.mem_set hset with hkey | hold
              · exact Or.inr ⟨d, List.mem_cons_self, hkey⟩
              · exact Or.inl hold
            · exact Or.inr ⟨d', List.mem_cons_of_mem _ hd', hkey⟩
          · rcases List.mem_append.mp hc with hc | hc
            · obtain ⟨c', -, rfl⟩ := Option.map_eq_some_iff.mp (Option.mem_toList.mp hc)
              exact ⟨d, List.mem_cons_self, c'.segments, rfl⟩
            · obtain ⟨d', hd', hrest⟩ := hcs c hc
              exact ⟨d', List.mem_cons_of_mem _ hd', hrest⟩

end Laid

/-- Nothing is displaced if nothing is below any key that writes go to. -/
theorem eq_nil_of_below {ds : List Deposit} {cs : List Clash}
    (hcs : ∀ c ∈ cs, ∃ d ∈ ds, ∃ rest, c.segments = d.key :: rest)
    (hbelow : ∀ d ∈ ds, cs.filterMap (Clash.below? d.key) = []) : cs = [] := by
  rw [List.eq_nil_iff_forall_not_mem]
  intro c hc
  obtain ⟨d, hd, rest, hsegments⟩ := hcs c hc
  have hnone := List.filterMap_eq_nil_iff.mp (hbelow d hd) c hc
  rw [Clash.below?, hsegments, keysBelow?_self] at hnone
  simp at hnone

end Trialbook

import Trialbook.Node.Same
import Trialbook.Proofs.Conflict
import Trialbook.Proofs.Fresh
import Mathlib.Data.List.Perm.Subperm

/-!
# Independent writes commute

Writes are independent if no path leads through another and a path that is assigned
to is written to once. Then nothing collides. Each assigned value is found at its path,
each path that is appended to has one list of all that was appended, and the document is
the same for every order of the writes that keeps the order at each path. The order
matters only for where a mapping has its keys, and mappings are equal in any order of
their entries.

`Built` says what independent writes leave in a place, whatever made the mappings on the
way: one value, or one list, or a mapping with what the writes below each of its keys
leave there. One more write that avoids the ones before it keeps this
(`Built.put`), and two places that are built by the same writes at each path are equal
(`Built.same`).
-/

namespace Trialbook

open Node

/-! ## Equal documents -/

theorem Number.same_refl (a : Number) : a.same a = true := by
  cases a with
  | int value => exact beq_self_eq_true value
  | float value =>
      cases value with
      | finite s m e => simp [Number.same, Decimal.Binary64.same]
      | _ => simp [Number.same, Decimal.Binary64.same]

namespace Node

theorem hasEntry_of_mem {key value n : Node} {fs : Entries} (hmem : (key, n) ∈ fs)
    (hkey : key.same key = true) (hvalue : value.same n = true) :
    hasEntry key value fs = true := by
  induction fs with
  | nil => simp at hmem
  | cons f fs ih =>
      obtain ⟨k, v⟩ := f
      rw [hasEntry]
      rcases List.mem_cons.mp hmem with heq | hmem
      · obtain ⟨rfl, rfl⟩ := Prod.mk.inj heq
        rw [hkey, hvalue]
        rfl
      · rw [ih hmem, Bool.or_true]

theorem sameEntries_of_forall {es fs : Entries} (h : ∀ e ∈ es, hasEntry e.1 e.2 fs = true) :
    sameEntries es fs = true := by
  induction es with
  | nil => rw [sameEntries]
  | cons e es ih =>
      obtain ⟨he, hes⟩ := List.forall_mem_cons.mp h
      obtain ⟨k, v⟩ := e
      rw [sameEntries, he, ih hes]
      rfl

mutual

theorem same_refl : ∀ n : Node, n.same n = true
  | null => by rw [same]
  | bool b => by rw [same, beq_self_eq_true]
  | number a => by rw [same, a.same_refl]
  | text s => by rw [same, beq_self_eq_true]
  | sequence xs => by rw [same, sameItems_refl xs]
  | mapping es => by
      rw [same, beq_self_eq_true, Bool.true_and]
      refine sameEntries_of_forall fun e he => ?_
      obtain ⟨hkey, hvalue⟩ := same_refl_of_mem es e he
      exact hasEntry_of_mem he hkey hvalue
  | tagged t n => by rw [same, beq_self_eq_true, same_refl n]; rfl

theorem sameItems_refl : ∀ xs : List Node, sameItems xs xs = true
  | [] => by rw [sameItems]
  | x :: xs => by rw [sameItems, same_refl x, sameItems_refl xs]; rfl

theorem same_refl_of_mem : ∀ es : List (Node × Node), ∀ e ∈ es,
    e.1.same e.1 = true ∧ e.2.same e.2 = true
  | [], _, he => absurd he List.not_mem_nil
  | (k, v) :: es, e, he => by
      rcases List.mem_cons.mp he with rfl | he
      · exact ⟨same_refl k, same_refl v⟩
      · exact same_refl_of_mem es e he

end

end Node

/-- A mapping that has all keys of another has at least as many entries. -/
theorem Entries.Named.length_le {es fs : Entries} (hes : es.Named)
    (h : ∀ key, get? key fs = none → get? key es = none) : es.length ≤ fs.length := by
  have hkeys : es.map Prod.fst ⊆ fs.map Prod.fst := by
    intro k hk
    obtain ⟨e, he, rfl⟩ := List.mem_map.mp hk
    obtain ⟨key, hkey, -⟩ := hes.dotless e he
    by_contra hnone
    have hmissing : get? key fs = none := get?_eq_none_iff.mpr fun f hf heq =>
      hnone (hkey ▸ heq ▸ List.mem_map_of_mem hf)
    exact get?_eq_none_iff.mp (h key hmissing) e he hkey
  simpa using (List.subperm_of_subset hes.distinct hkeys).length_le

/-- Mappings are equal if they have the same keys and equal values under these, in
whatever order. -/
theorem Node.same_mapping {es fs : Entries} (hes : es.Named) (hfs : fs.Named)
    (hkeys : ∀ key, Entries.get? key es = none ↔ Entries.get? key fs = none)
    (hvalues : ∀ key v v', Entries.get? key es = some v → Entries.get? key fs = some v' →
      v.same v' = true) : (mapping es).same (mapping fs) = true := by
  have hlength : es.length = fs.length :=
    Nat.le_antisymm (hes.length_le fun key => (hkeys key).mpr)
      (hfs.length_le fun key => (hkeys key).mp)
  rw [Node.same, hlength, beq_self_eq_true, Bool.true_and]
  refine sameEntries_of_forall fun e he => ?_
  obtain ⟨k, v⟩ := e
  obtain ⟨key, hkey, -⟩ := hes.dotless (k, v) he
  obtain rfl : k = text key := hkey
  have hget := hes.get?_of_mem he
  cases hget' : Entries.get? key fs with
  | none =>
      rw [(hkeys key).mpr hget'] at hget
      simp at hget
  | some v' =>
      exact hasEntry_of_mem (Entries.mem_of_get? hget') (same_refl _) (hvalues key v v' hget hget')

/-! ## Writes that avoid each other -/

namespace Deposit

/-- Neither write goes through the place of the other, and if they go to one place both
are appended there. -/
def Avoids (d e : Deposit) : Prop :=
  Overlap d.keys e.keys → d.keys = e.keys ∧ d.append = true ∧ e.append = true

theorem Avoids.below {key : String} {d e : Deposit} (h : (d.under key).Avoids (e.under key)) :
    d.Avoids e := by
  intro hover
  obtain ⟨hkeys, happend⟩ := h (overlap_cons.mpr ⟨rfl, hover⟩)
  exact ⟨(List.cons.inj hkeys).2, happend⟩

/-- The items that are put into one list at the end of the keys. -/
def itemsAt (keys : List String) (ds : List Deposit) : List Node :=
  (ds.filter fun d => d.keys = keys).flatMap fun d => d.value.splice

theorem mem_below {key : String} {e : Deposit} {ds : List Deposit} :
    e ∈ ds.filterMap (below? key) ↔ e.under key ∈ ds := by
  rw [List.mem_filterMap]
  constructor
  · rintro ⟨d, hd, hbelow⟩
    rwa [← below?_eq_some.mp hbelow]
  · intro h
    exact ⟨_, h, below?_under key e⟩

theorem filter_below (key : String) (rest : List String) (ds : List Deposit) :
    (ds.filterMap (below? key)).filter (fun d => d.keys = rest) =
      (ds.filter fun d => d.keys = key :: rest).filterMap (below? key) := by
  induction ds with
  | nil => rfl
  | cons d ds ih =>
      cases hbelow : d.below? key with
      | none =>
          have hkeys : d.keys ≠ key :: rest := by
            intro hkeys
            rw [below?, hkeys, keysBelow?_self] at hbelow
            simp at hbelow
          rw [List.filterMap_cons_none hbelow, ih, List.filter_cons_of_neg (by simpa using hkeys)]
      | some e =>
          obtain rfl := below?_eq_some.mp hbelow
          rw [List.filterMap_cons_some hbelow]
          by_cases hkeys : e.keys = rest
          · rw [List.filter_cons_of_pos (by simpa using hkeys), ih,
              List.filter_cons_of_pos (by simpa [under] using hkeys),
              List.filterMap_cons_some hbelow]
          · rw [List.filter_cons_of_neg (by simpa using hkeys), ih,
              List.filter_cons_of_neg (by simpa [under] using hkeys)]

theorem itemsAt_below (key : String) (rest : List String) (ds : List Deposit) :
    itemsAt rest (ds.filterMap (below? key)) = itemsAt (key :: rest) ds := by
  rw [itemsAt, filter_below, itemsAt]
  have hall : ∀ d ∈ ds.filter fun d => d.keys = key :: rest, d.keys = key :: rest := fun d hd => by
    simpa using (List.mem_filter.mp hd).2
  generalize (ds.filter fun d => d.keys = key :: rest) = there at hall ⊢
  induction there with
  | nil => rfl
  | cons d others ih =>
      obtain ⟨hd, hothers⟩ := List.forall_mem_cons.mp hall
      have hbelow : d.below? key = some { d with keys := rest } := by
        rw [below?, hd, keysBelow?_self]
        rfl
      rw [List.filterMap_cons_some hbelow, List.flatMap_cons, List.flatMap_cons, ih hothers]

/-- At each place the writes are the same ones in the same order. -/
def SameAtEach (ds es : List Deposit) : Prop :=
  ∀ keys, ds.filter (fun d => d.keys = keys) = es.filter fun d => d.keys = keys

theorem SameAtEach.mem_iff {ds es : List Deposit} (h : SameAtEach ds es) {d : Deposit} :
    d ∈ ds ↔ d ∈ es := by
  have hown : ∀ fs : List Deposit, d ∈ fs ↔ d ∈ fs.filter fun e => e.keys = d.keys := fun fs => by
    simp [List.mem_filter]
  rw [hown ds, hown es, h d.keys]

theorem SameAtEach.eq_nil_iff {ds es : List Deposit} (h : SameAtEach ds es) :
    ds = [] ↔ es = [] := by
  rw [List.eq_nil_iff_forall_not_mem, List.eq_nil_iff_forall_not_mem]
  exact forall_congr' fun d => not_congr h.mem_iff

theorem SameAtEach.below {ds es : List Deposit} (h : SameAtEach ds es) (key : String) :
    SameAtEach (ds.filterMap (below? key)) (es.filterMap (below? key)) := by
  intro rest
  rw [filter_below, filter_below, h (key :: rest)]

end Deposit

/-! ## What they build -/

/-- What writes that avoid each other leave in a place. -/
inductive Built : List Deposit → Node → Prop
  /-- One value goes there. -/
  | value (value : Node) : Built [⟨[], value, false⟩] value
  /-- Values are appended there. -/
  | items {ds : List Deposit} (hne : ds ≠ [])
      (hhere : ∀ d ∈ ds, d.keys = [] ∧ d.append = true) :
      Built ds (sequence (ds.flatMap fun d => d.value.splice))
  /-- All go to keys of the place, and these are all its keys. -/
  | keys {ds : List Deposit} {es : Entries} (hnamed : es.Named) (hbelow : ∀ d ∈ ds, d.keys ≠ [])
      (hpresent : ∀ key, Entries.get? key es = none ↔ ds.filterMap (Deposit.below? key) = [])
      (hvalues : ∀ key n, Entries.get? key es = some n →
        Built (ds.filterMap (Deposit.below? key)) n) :
      Built ds (mapping es)

namespace Built

open Deposit (below?)

theorem empty : Built [] (mapping []) :=
  .keys .nil (by simp) (by simp [Entries.get?]) (by simp [Entries.get?])

/-- The entries of a place after a write at one of its keys, or at a new one. -/
theorem set {ds : List Deposit} {es : Entries} {d : Deposit} {n : Node} (hnamed : es.Named)
    (hbelow : ∀ d ∈ ds, d.keys ≠ [])
    (hpresent : ∀ key, Entries.get? key es = none ↔ ds.filterMap (below? key) = [])
    (hvalues : ∀ key n, Entries.get? key es = some n → Built (ds.filterMap (below? key)) n)
    {first : String} (hfirst : Path.Dotless first)
    (hbuilt : Built (ds.filterMap (below? first) ++ [d]) n) :
    Built (ds ++ [d.under first]) (mapping (Entries.set first n es)) := by
  have hown : (ds ++ [d.under first]).filterMap (below? first) =
      ds.filterMap (below? first) ++ [d] := by
    rw [List.filterMap_append, List.filterMap_cons_some (Deposit.below?_under first d),
      List.filterMap_nil]
  have hother : ∀ key, key ≠ first →
      (ds ++ [d.under first]).filterMap (below? key) = ds.filterMap (below? key) := by
    intro key hkey
    have hnone : (d.under first).below? key = none := by
      rw [below?, Deposit.under, keysBelow?_of_ne (Ne.symm hkey), Option.map_none]
    rw [List.filterMap_append, List.filterMap_cons_none hnone, List.filterMap_nil,
      List.append_nil]
  refine .keys (hnamed.set hfirst n) ?_ ?_ ?_
  · intro e he
    rcases List.mem_append.mp he with he | he
    · exact hbelow e he
    · rw [List.mem_singleton.mp he]
      exact List.cons_ne_nil _ _
  · intro key
    by_cases hkey : key = first
    · subst hkey
      rw [Entries.get?_set_self, hown]
      simp
    · rw [Entries.get?_set_of_ne (Ne.symm hkey), hother key hkey]
      exact hpresent key
  · intro key m hm
    by_cases hkey : key = first
    · subst hkey
      rw [Entries.get?_set_self] at hm
      rw [hown, ← Option.some.inj hm]
      exact hbuilt
    · rw [Entries.get?_set_of_ne (Ne.symm hkey)] at hm
      rw [hother key hkey]
      exact hvalues key m hm

/-- Where nothing stands, one write builds the mappings on its way. -/
theorem chain (keys : List String) (hkeys : ∀ key ∈ keys, Path.Dotless key) (value : Node)
    (append : Bool) : Built [⟨keys, value, append⟩] (chain keys (value.fresh append)) := by
  induction keys with
  | nil =>
      cases append with
      | false => exact .value value
      | true =>
          have hitems := Built.items (List.cons_ne_nil (⟨[], value, true⟩ : Deposit) []) (by simp)
          rwa [List.flatMap_singleton] at hitems
  | cons key rest ih =>
      obtain ⟨hkey, hrest⟩ := List.forall_mem_cons.mp hkeys
      have hbuilt : Built ([] ++ [Deposit.under key ⟨rest, value, append⟩])
          (mapping (Entries.set key (Node.chain rest (value.fresh append)) [])) :=
        set .nil (by simp) (by simp [Entries.get?]) (by simp [Entries.get?]) hkey (ih hrest)
      exact hbuilt

/-- A write that avoids the others is added to what they built, and displaces nothing. -/
theorem put {ds : List Deposit} {n : Node} (h : Built ds n) {d : Deposit}
    (hkeys : ∀ key ∈ d.keys, Path.Dotless key) (hplace : ds = [] → d.keys ≠ [])
    (havoids : ∀ e ∈ ds, e.Avoids d) :
    ∃ m, d.put (some n) = some ⟨m, none⟩ ∧ Built (ds ++ [d]) m := by
  induction h generalizing d with
  | value value =>
      -- every place is at the value or below it, and no other write may go there
      obtain ⟨-, hfalse, -⟩ := havoids _ List.mem_cons_self (overlap_nil d.keys)
      exact absurd hfalse Bool.false_ne_true
  | @items ds hne hhere =>
      obtain ⟨e, he⟩ := List.exists_mem_of_ne_nil ds hne
      obtain ⟨hsame, -, happend⟩ := havoids e he ((hhere e he).1 ▸ overlap_nil d.keys)
      obtain ⟨keys, value, append⟩ := d
      obtain rfl : keys = [] := hsame.symm.trans (hhere e he).1
      obtain rfl : append = true := happend
      refine ⟨_, Deposit.put_nil value true _, ?_⟩
      have hitems := Built.items
        (List.append_ne_nil_of_left_ne_nil hne [(⟨[], value, true⟩ : Deposit)])
        (fun d hd => by
          rcases List.mem_append.mp hd with hd | hd
          · exact hhere d hd
          · rw [List.mem_singleton.mp hd]
            exact ⟨rfl, rfl⟩)
      rwa [List.flatMap_append, List.flatMap_singleton] at hitems
  | @keys ds es hnamed hbelow hpresent hvalues ih =>
      have hne : d.keys ≠ [] := by
        intro hnil
        obtain ⟨e, he⟩ := List.exists_mem_of_ne_nil ds fun hds => hplace hds hnil
        have hover : Overlap e.keys d.keys := Or.inr (hnil ▸ List.nil_prefix)
        exact hbelow e he ((havoids e he hover).1.trans hnil)
      obtain ⟨keys, value, append⟩ := d
      obtain ⟨first, rest, rfl⟩ := List.exists_cons_of_ne_nil hne
      obtain ⟨hfirst, hrest⟩ := List.forall_mem_cons.mp hkeys
      rw [Deposit.put_mapping]
      cases hget : Entries.get? first es with
      | none =>
          refine ⟨_, by rw [Deposit.put_none]; rfl, ?_⟩
          refine set hnamed hbelow hpresent hvalues hfirst (d := ⟨rest, value, append⟩) ?_
          rw [(hpresent first).mp hget, List.nil_append]
          exact chain rest hrest value append
      | some inner =>
          obtain ⟨m, hm, hbuilt⟩ := ih first inner hget (d := ⟨rest, value, append⟩) hrest
            (fun hnil => absurd ((hpresent first).mpr hnil) (by simp [hget]))
            (fun e he => (havoids _ (Deposit.mem_below.mp he)).below)
          exact ⟨_, by rw [hm]; rfl, set hnamed hbelow hpresent hvalues hfirst hbuilt⟩

/-- A run of writes that avoid each other and what is there. -/
theorem writeAll {ds : List Deposit} {n : Node} (h : Built ds n) {ws : List Write}
    (havoids : (ds ++ ws.map Write.deposit).Pairwise Deposit.Avoids) (policy : CollisionPolicy) :
    ∃ m, n.writeAll policy ws = .ok (m, []) ∧ Built (ds ++ ws.map Write.deposit) m := by
  induction ws generalizing ds n with
  | nil =>
      refine ⟨n, by rw [Node.writeAll], ?_⟩
      rwa [List.map_nil, List.append_nil]
  | cons w ws ih =>
      rw [List.map_cons, List.append_cons] at havoids ⊢
      obtain ⟨hfirst, -, -⟩ := List.pairwise_append.mp havoids
      obtain ⟨-, -, hbefore⟩ := List.pairwise_append.mp hfirst
      obtain ⟨m, hm, hbuilt⟩ := h.put (fun key hkey => Path.dotless_of_mem_segments hkey)
        (fun _ => w.keys_deposit_ne_nil) fun e he => hbefore e he _ List.mem_cons_self
      obtain ⟨last, hlast, hdone⟩ := ih hbuilt havoids
      refine ⟨last, ?_, hdone⟩
      have hwrite : n.write w = some (m, none) := by
        rw [write_eq_put, hm]
        rfl
      rw [Node.writeAll, hwrite]
      exact hlast

/-- A value that is assigned is found, and values that are appended are found in one
list. -/
theorem at? {ds : List Deposit} {n : Node} (h : Built ds n) {d : Deposit} (hd : d ∈ ds) :
    n.at? d.keys =
      some (if d.append then sequence (Deposit.itemsAt d.keys ds) else d.value) := by
  induction h generalizing d with
  | value value =>
      rw [List.mem_singleton.mp hd]
      rfl
  | @items ds hne hhere =>
      obtain ⟨hkeys, happend⟩ := hhere d hd
      have hall : (ds.filter fun e => e.keys = d.keys) = ds :=
        List.filter_eq_self.mpr fun e he => by simpa [hkeys] using (hhere e he).1
      rw [happend, if_pos rfl, Deposit.itemsAt, hall, hkeys]
      rfl
  | @keys ds es hnamed hbelow hpresent hvalues ih =>
      obtain ⟨keys, value, append⟩ := d
      obtain ⟨first, rest, rfl⟩ := List.exists_cons_of_ne_nil (hbelow _ hd)
      have hinner : ⟨rest, value, append⟩ ∈ ds.filterMap (below? first) :=
        Deposit.mem_below.mpr hd
      cases hget : Entries.get? first es with
      | none =>
          rw [(hpresent first).mp hget] at hinner
          exact absurd hinner List.not_mem_nil
      | some inner =>
          have hfound := ih first inner hget hinner
          rw [Deposit.itemsAt_below] at hfound
          rw [Node.at?_of_get? hget]
          exact hfound

/-- Two nodes that the same writes built, in whatever order of their places, are equal. -/
theorem same {ds es : List Deposit} {n m : Node} (h : Built ds n) (h' : Built es m)
    (heach : Deposit.SameAtEach ds es) : n.same m = true := by
  induction h generalizing es m with
  | value value =>
      have hmem : (⟨[], value, false⟩ : Deposit) ∈ es := heach.mem_iff.mp List.mem_cons_self
      cases h' with
      | value =>
          rw [List.mem_singleton] at hmem
          rw [(Deposit.mk.inj hmem).2.1]
          exact same_refl m
      | items _ hhere => exact absurd (hhere _ hmem).2 Bool.false_ne_true
      | keys _ hbelow => exact absurd rfl (hbelow _ hmem)
  | @items ds hne hhere =>
      obtain ⟨d, hd⟩ := List.exists_mem_of_ne_nil ds hne
      have hmem := heach.mem_iff.mp hd
      cases h' with
      | value =>
          rw [List.mem_singleton] at hmem
          exact absurd (hhere d hd).2 (by simp [hmem])
      | items _ hhere' =>
          -- all writes go right here, so that their lists are one
          have hall : ∀ fs : List Deposit, (∀ e ∈ fs, e.keys = [] ∧ e.append = true) →
              (fs.filter fun e => e.keys = []) = fs := fun fs hfs =>
            List.filter_eq_self.mpr fun e he => by simpa using (hfs e he).1
          obtain rfl : ds = es := by rw [← hall ds hhere, ← hall es hhere', heach []]
          exact same_refl _
      | keys _ hbelow => exact absurd (hhere d hd).1 (hbelow d hmem)
  | @keys ds es' hnamed hbelow hpresent hvalues ih =>
      cases h' with
      | value =>
          have hmem : (⟨[], m, false⟩ : Deposit) ∈ ds := heach.mem_iff.mpr List.mem_cons_self
          exact absurd rfl (hbelow _ hmem)
      | items hne hhere =>
          obtain ⟨d, hd⟩ := List.exists_mem_of_ne_nil _ hne
          exact absurd (hhere d hd).1 (hbelow d (heach.mem_iff.mpr hd))
      | @keys _ fs hnamed' hbelow' hpresent' hvalues' =>
          refine same_mapping hnamed hnamed' (fun key => ?_) fun key v v' hget hget' => ?_
          · rw [hpresent, hpresent', (heach.below key).eq_nil_iff]
          · exact ih key v hget (hvalues' key v' hget') (heach.below key)

end Built

/-! ## Writes by their paths -/

namespace Write

/-- Whether no path leads through another, and a path that one value is assigned to is
the path of no other write. -/
structure Independent (ws : List Write) : Prop where
  apart : ∀ a ∈ ws, ∀ b ∈ ws, Path.segments a.path <+: Path.segments b.path → a.path = b.path
  single : ∀ w ∈ ws, w.append = false → (ws.filter fun v => v.path = w.path) = [w]

variable {ws vs : List Write}

theorem deposit_keys_eq_iff {w v : Write} : w.deposit.keys = v.deposit.keys ↔ w.path = v.path := by
  constructor
  · intro h
    rw [← Path.ofSegments_segments w.path, ← Path.ofSegments_segments v.path]
    exact congrArg Path.ofSegments h
  · exact fun h => congrArg Path.segments h

theorem filter_map_deposit (ws : List Write) (path : String) :
    (ws.map deposit).filter (fun d => d.keys = Path.segments path) =
      (ws.filter fun w => w.path = path).map deposit := by
  rw [List.filter_map]
  refine congrArg _ (List.filter_congr fun w _ => ?_)
  exact decide_eq_decide.mpr (deposit_keys_eq_iff (v := ⟨path, .null, false⟩))

theorem sameAtEach (h : ∀ path, (vs.filter fun w => w.path = path) =
    ws.filter fun w => w.path = path) :
    Deposit.SameAtEach (vs.map deposit) (ws.map deposit) := by
  intro keys
  by_cases hkeys : Path.segments (Path.ofSegments keys) = keys
  · rw [← hkeys, filter_map_deposit, filter_map_deposit, h]
  · have hnone : ∀ us : List Write, (us.map deposit).filter (fun d => d.keys = keys) = [] := by
      intro us
      rw [List.filter_eq_nil_iff]
      intro d hd heq
      obtain ⟨w, -, rfl⟩ := List.mem_map.mp hd
      refine hkeys ?_
      rw [← of_decide_eq_true heq]
      exact congrArg Path.segments (Path.ofSegments_segments w.path)
    rw [hnone, hnone]

namespace Independent

theorem avoids (h : Independent ws) : (ws.map deposit).Pairwise Deposit.Avoids := by
  rw [List.pairwise_map, List.pairwise_iff_forall_sublist]
  intro a b hsub hover
  have ha : a ∈ ws := hsub.subset List.mem_cons_self
  have hb : b ∈ ws := hsub.subset (List.mem_cons_of_mem _ List.mem_cons_self)
  have hpath : a.path = b.path := by
    rcases hover with hover | hover
    · exact h.apart a ha b hb hover
    · exact (h.apart b hb a ha hover).symm
  -- a path that is assigned to would have both writes, and it has one
  have happend : ∀ w ∈ ws, w.path = a.path → w.append = true := by
    intro w hw hsame
    by_contra hassigns
    have hboth : [a, b].Sublist (ws.filter fun v => v.path = w.path) := by
      have hfilter := hsub.filter fun v => v.path = w.path
      rwa [List.filter_eq_self.mpr (by simp [hsame, hpath])] at hfilter
    rw [h.single w hw (by simpa using hassigns)] at hboth
    exact absurd hboth.length_le (by simp)
  exact ⟨deposit_keys_eq_iff.mpr hpath, happend a ha rfl, happend b hb hpath.symm⟩

theorem reorder (h : Independent ws) (hperm : vs.Perm ws)
    (heach : ∀ path, (vs.filter fun w => w.path = path) = ws.filter fun w => w.path = path) :
    Independent vs where
  apart a ha b hb := h.apart a (hperm.mem_iff.mp ha) b (hperm.mem_iff.mp hb)
  single w hw happend := by
    rw [heach]
    exact h.single w (hperm.mem_iff.mp hw) happend

theorem exists_built (h : Independent ws) (policy : CollisionPolicy) :
    ∃ n, rebuild policy ws = .ok (n, []) ∧ Built (ws.map deposit) n :=
  Built.empty.writeAll (by rw [List.nil_append]; exact h.avoids) policy

end Independent

end Write

namespace Migration

/-- Independent writes never collide. What is assigned is found at its path, and what is
appended to a path is found there in one list, in the order of the writes. Any
other order of the writes that keeps the order at each path gives an equal document. -/
theorem materialize_independent {writes : List Write} (h : Write.Independent writes)
    (policy : CollisionPolicy) (report : Report) :
    ∃ document, materialize policy writes report = .ok (document, report) ∧
      (∀ w ∈ writes, w.append = false →
        document.at? (Path.segments w.path) = some w.value) ∧
      (∀ w ∈ writes, w.append = true → document.at? (Path.segments w.path) =
        some (sequence ((writes.filter fun v => v.path = w.path).flatMap fun v =>
          v.value.splice))) ∧
      ∀ others : List Write, others.Perm writes →
        (∀ path, (others.filter fun v => v.path = path) =
          writes.filter fun v => v.path = path) →
        ∃ other, materialize policy others report = .ok (other, report) ∧
          document.same other = true := by
  obtain ⟨document, hrebuild, hbuilt⟩ := h.exists_built policy
  have hfound : ∀ w ∈ writes, document.at? (Path.segments w.path) =
      some (if w.append then sequence (Deposit.itemsAt (Path.segments w.path)
        (writes.map Write.deposit)) else w.value) := fun w hw =>
    hbuilt.at? (List.mem_map_of_mem hw)
  have hcollisions : { report with collisions := report.collisions ++ [] } = report := by
    rw [List.append_nil]
  refine ⟨document, ?_, ?_, ?_, ?_⟩
  · rw [materialize_ok hrebuild, hcollisions]
  · intro w hw happend
    rw [hfound w hw, happend]
    rfl
  · intro w hw happend
    rw [hfound w hw, happend, if_pos rfl, Deposit.itemsAt, Write.filter_map_deposit,
      List.flatMap_map]
    rfl
  · intro others hperm heach
    obtain ⟨other, hrebuild', hbuilt'⟩ := (h.reorder hperm heach).exists_built policy
    refine ⟨other, by rw [materialize_ok hrebuild', hcollisions], ?_⟩
    exact hbuilt.same hbuilt' fun keys => (Write.sameAtEach heach keys).symm

/-- A text and a list with a null appended to one path, beside a tagged value under the
same key and a mapping elsewhere. -/
theorem materialize_independent_appends :
    let first : Write := ⟨"a.b", text "x", true⟩
    let second : Write := ⟨"a.b", sequence [null, text "y"], true⟩
    let beside : Write := ⟨"a.c", tagged ⟨"t"⟩ null, false⟩
    let apart : Write := ⟨"d", mapping [(text "e", null)], false⟩
    Write.Independent [first, apart, second, beside] ∧
    ∃ document other, materialize .error [first, apart, second, beside] {} = .ok (document, {}) ∧
      materialize .error [beside, first, second, apart] {} = .ok (other, {}) ∧
      document.at? ["a", "b"] = some (sequence [text "x", null, text "y"]) ∧
      document.at? ["a", "c"] = some (tagged ⟨"t"⟩ null) ∧ document.same other = true := by
  intro first second beside apart
  have h : Write.Independent [first, apart, second, beside] := by
    refine ⟨by decide, ?_⟩
    simp only [List.forall_mem_cons, List.not_mem_nil, false_imp_iff, implies_true, and_true]
    exact ⟨fun h => absurd h (by decide), fun _ => rfl, fun h => absurd h (by decide), fun _ => rfl⟩
  obtain ⟨document, hdocument, hassigned, happended, horders⟩ :=
    materialize_independent h .error {}
  have hperm : [beside, first, second, apart].Perm [first, apart, second, beside] := by
    have hrotated : [beside, first, second, apart].Perm [first, second, apart, beside] :=
      (List.perm_append_singleton beside [first, second, apart]).symm
    refine hrotated.trans ?_
    exact (List.Perm.swap apart second [beside]).cons first
  have heach : ∀ path, ([beside, first, second, apart].filter fun w => w.path = path) =
      [first, apart, second, beside].filter fun w => w.path = path := by
    intro path
    rcases eq_or_ne path "d" with rfl | hapart
    · rfl
    · rcases eq_or_ne path "a.c" with rfl | hbeside
      · rfl
      · simp [List.filter_cons, first, second, beside, apart, hapart.symm, hbeside.symm]
  obtain ⟨other, hother, hsame⟩ := horders [beside, first, second, apart] hperm heach
  have hsegments : Path.segments "a.b" = ["a", "b"] ∧ Path.segments "a.c" = ["a", "c"] := by
    decide
  have hfirst := happended first (by simp) rfl
  have hbeside := hassigned beside (by simp) rfl
  rw [show first.path = "a.b" from rfl, hsegments.1] at hfirst
  rw [show beside.path = "a.c" from rfl, hsegments.2] at hbeside
  exact ⟨h, document, other, hdocument, hother, hfirst, hbeside, hsame⟩

end Migration

end Trialbook

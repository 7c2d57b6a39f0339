import Trialbook.Proofs.Growth
import Trialbook.Proofs.Policy

/-!
# What a run of writes does in one place

A rebuild writes all over a document, but what it leaves at a key depends on
little of that: on what stood at the key, and on the writes that go there or
below, in their order. The other writes may as well not have happened.

`Laid` is a run of writes seen from one place, which may be empty at first. It
has the collisions as well, and it has one outcome at most (`Laid.unique`). The
main statement is `Laid.child`: a run in a place is a run in every place below
it, of those writes that go there. It is all about one write
(`Deposit.put_child`), and it holds of every place but a mapping under a tag,
where the last step of a walk is not taken.

A run that begins with an empty document is the run of a rebuild
(`Laid.of_rebuild`). From there the lemma is applied once for each key on the way
down.
-/

namespace Trialbook

open Node

/-- A write seen from a place: the keys that lead from there to where it goes. -/
structure Deposit where
  keys : List String
  value : Node
  append : Bool

/-- The write seen from the root. -/
def Write.deposit (w : Write) : Deposit := ⟨Path.segments w.path, w.value, w.append⟩

/-- The keys behind a first one, if this is the first. -/
def keysBelow? (key : String) : List String → Option (List String)
  | [] => none
  | first :: rest => if first = key then some rest else none

/-- The write seen from one key further down, if it goes there. -/
def Deposit.below? (key : String) (d : Deposit) : Option Deposit :=
  (keysBelow? key d.keys).map fun rest => { d with keys := rest }

/-- The displacement seen from one key further down, if it happened there. -/
def Clash.below? (key : String) (c : Clash) : Option Clash :=
  (keysBelow? key c.segments).map fun rest => { c with segments := rest }

@[simp] theorem keysBelow?_self (key : String) (rest : List String) :
    keysBelow? key (key :: rest) = some rest := if_pos rfl

theorem keysBelow?_of_ne {key first : String} (h : first ≠ key) (rest : List String) :
    keysBelow? key (first :: rest) = none := if_neg h

theorem keysBelow?_eq_some {key : String} {keys rest : List String} :
    keysBelow? key keys = some rest ↔ keys = key :: rest := by
  cases keys with
  | nil => simp [keysBelow?]
  | cons first others => simp [keysBelow?]

/-- The write seen from one key further up. -/
def Deposit.under (key : String) (d : Deposit) : Deposit := { d with keys := key :: d.keys }

theorem Deposit.below?_eq_some {key : String} {d e : Deposit} :
    d.below? key = some e ↔ d = e.under key := by
  obtain ⟨keys, value, append⟩ := d
  obtain ⟨keys', value', append'⟩ := e
  rw [below?, Option.map_eq_some_iff]
  constructor
  · rintro ⟨rest, hrest, heq⟩
    obtain ⟨rfl, rfl, rfl⟩ := Deposit.mk.inj heq
    have hkeys : keys = key :: rest := keysBelow?_eq_some.mp hrest
    rw [hkeys]
    rfl
  · intro heq
    obtain ⟨rfl, rfl, rfl⟩ := Deposit.mk.inj heq
    exact ⟨keys', keysBelow?_self key keys', rfl⟩

theorem Deposit.below?_under (key : String) (d : Deposit) : (d.under key).below? key = some d :=
  below?_eq_some.mpr rfl

theorem Deposit.filterMap_below_under (key : String) (ds : List Deposit) :
    (ds.map (under key)).filterMap (below? key) = ds := by
  induction ds with
  | nil => rfl
  | cons d ds ih => rw [List.map_cons, List.filterMap_cons_some (below?_under key d), ih]

/-! ## One write -/

/-- A value put where a value may stand already. -/
def Node.placed (value : Node) (append : Bool) : Option Node → Written
  | none => ⟨value.fresh append, none⟩
  | some present =>
    if append && !present.isMapping then ⟨present.appended value, none⟩
    else ⟨value.fresh append,
      some ⟨[], if present.isMapping then .subtreeReplaced else .overwritten⟩⟩

/-- What a write leaves in a place, or nothing if its walk has no outcome. -/
def Deposit.put (d : Deposit) (place : Option Node) : Option Written :=
  match d.keys with
  | [] => some (d.value.placed d.append place)
  | keys => writeAt d.value d.append keys (place.getD null)

/-- No mapping under a tag stands in the place. -/
def Open (place : Option Node) : Prop :=
  ∀ n, place = some n → n.isMapping = true → n.isTagged = false

/-- What stands at a key of a place. -/
def childAt? (place : Option Node) (key : String) : Option Node :=
  place.bind fun n => n.child? key

@[simp] theorem childAt?_some (n : Node) (key : String) :
    childAt? (some n) key = n.child? key := rfl

theorem at?_concat (n : Node) (keys : List String) (key : String) :
    n.at? (keys ++ [key]) = childAt? (n.at? keys) key := by
  induction keys generalizing n with
  | nil =>
      show n.at? [key] = n.child? key
      rw [at?_cons]
      cases n.child? key <;> rfl
  | cons first keys ih =>
      rw [List.cons_append, at?_cons, at?_cons]
      cases n.child? first with
      | none => rfl
      | some inner => exact ih inner

theorem open_none : Open none := by
  rintro n ⟨⟩

theorem open_mapping (es : Entries) : Open (some (mapping es)) := by
  rintro n ⟨⟩ _
  rfl

/-- An open place holds a plain mapping, or it has no keys. -/
theorem Open.cases {place : Option Node} (h : Open place) :
    (∃ es, place = some (mapping es)) ∨ (place.getD null).isMapping = false := by
  cases place with
  | none => exact Or.inr rfl
  | some n =>
      cases hmap : n.isMapping with
      | false => exact Or.inr hmap
      | true =>
          obtain ⟨es, rfl⟩ := eq_mapping_of_isMapping hmap (h n rfl hmap)
          exact Or.inl ⟨es, rfl⟩

theorem child?_of_not_mapping {n : Node} (h : n.isMapping = false) (key : String) :
    n.child? key = none := by
  rw [child?]
  split
  · next es hes => rw [isMapping_iff.mpr ⟨es, hes⟩] at h; simp at h
  · rfl

theorem childAt?_of_not_mapping {place : Option Node} (h : (place.getD null).isMapping = false)
    (key : String) : childAt? place key = none := by
  cases place with
  | none => rfl
  | some n => exact child?_of_not_mapping h key

namespace Entries

theorem get?_set_of_ne {key other : String} (h : other ≠ key) (n : Node) (es : Entries) :
    get? key (set other n es) = get? key es := by
  have hkey : (text other).isKey key = false := by simpa using h
  induction es with
  | nil => simp [set, get?, hkey]
  | cons e es ih =>
      obtain ⟨k, v⟩ := e
      rw [set]
      split
      · next hk =>
          obtain rfl := isKey_iff.mp hk
          rw [get?, get?, hkey]
          rfl
      · rw [get?, get?, ih]

theorem place_eq_placed (key : String) (value : Node) (append : Bool) (es : Entries) :
    place key value append es =
      (set key (value.placed append (get? key es)).node es,
        (value.placed append (get? key es)).clash.map (Clash.under key)) := by
  rw [place]
  cases get? key es with
  | none => rfl
  | some present =>
      dsimp only [placed]
      split <;> rfl

end Entries

namespace Deposit

variable {place : Option Node} {w : Written}

theorem put_nil (value : Node) (append : Bool) (place : Option Node) :
    put ⟨[], value, append⟩ place = some (value.placed append place) := rfl

theorem put_cons (key : String) (rest : List String) (value : Node) (append : Bool)
    (place : Option Node) :
    put ⟨key :: rest, value, append⟩ place =
      writeAt value append (key :: rest) (place.getD null) := rfl

/-- Where nothing stands, a write leaves the mappings on the way to its value. -/
theorem put_none (d : Deposit) :
    d.put none = some ⟨chain d.keys (d.value.fresh d.append), none⟩ := by
  obtain ⟨keys, value, append⟩ := d
  cases keys with
  | nil => rfl
  | cons key rest => exact writeAt_null value append (List.cons_ne_nil key rest)

/-- A write into a mapping is a write at its key. -/
theorem put_mapping (key : String) (rest : List String) (value : Node) (append : Bool)
    (es : Entries) :
    put ⟨key :: rest, value, append⟩ (some (mapping es)) =
      (put ⟨rest, value, append⟩ (Entries.get? key es)).map fun w =>
        ⟨mapping (Entries.set key w.node es), w.clash.map (Clash.under key)⟩ := by
  rw [put_cons, Option.getD_some]
  cases rest with
  | nil => rw [writeAt_singleton, writeLast_mapping, Entries.place_eq_placed]; rfl
  | cons next others =>
      rw [writeAt_of_mapping (untag_mapping es) (List.cons_ne_nil next others)]
      rfl

/-- What one write does at a key of an open place: what it does there, if it goes
there, and otherwise nothing. -/
theorem put_child {d : Deposit} (hplace : Open place) (hkeys : d.keys ≠ [])
    (h : d.put place = some w) (key : String) :
    (∃ es, w.node = mapping es) ∧
      match d.below? key with
      | none => w.node.child? key = childAt? place key ∧ w.clash.bind (Clash.below? key) = none
      | some inner => ∃ v, inner.put (childAt? place key) = some v ∧
          w.node.child? key = some v.node ∧ w.clash.bind (Clash.below? key) = v.clash := by
  obtain ⟨keys, value, append⟩ := d
  obtain ⟨first, rest, rfl⟩ := List.exists_cons_of_ne_nil hkeys
  rcases hplace.cases with ⟨es, rfl⟩ | hmap
  · rw [put_mapping, Option.map_eq_some_iff] at h
    obtain ⟨v, hv, rfl⟩ := h
    refine ⟨⟨_, rfl⟩, ?_⟩
    by_cases hfirst : first = key
    · subst hfirst
      simp only [below?, keysBelow?_self, Option.map_some, childAt?_some, child?_mapping]
      refine ⟨v, hv, Entries.get?_set_self _ _ _, ?_⟩
      cases v.clash <;> simp [Clash.under, Clash.below?]
    · simp only [below?, keysBelow?_of_ne hfirst, Option.map_none, childAt?_some, child?_mapping]
      refine ⟨Entries.get?_set_of_ne hfirst _ _, ?_⟩
      cases v.clash <;> simp [Clash.under, Clash.below?, keysBelow?_of_ne hfirst]
  · rw [put_cons] at h
    obtain rfl := eq_of_writeAt_of_not_mapping (List.cons_ne_nil _ _) hmap h
    refine ⟨⟨_, rfl⟩, ?_⟩
    have hclash : (if (place.getD null).isNull then none
        else some ⟨[], .leafReplaced⟩ : Option Clash).bind (Clash.below? key) = none := by
      split <;> rfl
    rw [childAt?_of_not_mapping hmap]
    by_cases hfirst : first = key
    · subst hfirst
      simp only [below?, keysBelow?_self, Option.map_some]
      refine ⟨_, put_none _, ?_, hclash⟩
      simp [chain_cons, Entries.get?]
    · simp only [below?, keysBelow?_of_ne hfirst, Option.map_none]
      refine ⟨?_, hclash⟩
      simp [chain_cons, Entries.get?, hfirst]

end Deposit

/-! ## A run -/

/-- Writes that go to a place, one after the other: what stands there before and
after, and what is displaced. -/
inductive Laid : Option Node → List Deposit → Option Node → List Clash → Prop
  | nil {place : Option Node} : Laid place [] place []
  | cons {place place' : Option Node} {d : Deposit} {ds : List Deposit} {w : Written}
      {cs : List Clash} (first : d.put place = some w) (others : Laid (some w.node) ds place' cs) :
      Laid place (d :: ds) place' (w.clash.toList ++ cs)

namespace Laid

variable {place place' place'' : Option Node} {ds es : List Deposit} {cs cs' : List Clash}

theorem unique (h : Laid place ds place' cs) (h' : Laid place ds place'' cs') :
    place'' = place' ∧ cs' = cs := by
  induction h generalizing cs' with
  | nil => cases h'; exact ⟨rfl, rfl⟩
  | cons first _ ih =>
      cases h' with
      | cons first' others' =>
          obtain rfl := Option.some.inj (first'.symm.trans first)
          obtain ⟨rfl, rfl⟩ := ih others'
          exact ⟨rfl, rfl⟩

/-- A run of two parts is two runs. -/
theorem exists_of_append (h : Laid place (ds ++ es) place'' cs) :
    ∃ place' front back, Laid place ds place' front ∧ Laid place' es place'' back ∧
      cs = front ++ back := by
  induction ds generalizing place cs with
  | nil => exact ⟨place, [], cs, .nil, h, rfl⟩
  | cons d ds ih =>
      cases h with
      | cons first others =>
          obtain ⟨place', front, back, hfront, hback, rfl⟩ := ih others
          exact ⟨place', _, back, .cons first hfront, hback, (List.append_assoc _ _ _).symm⟩

theorem isSome (h : Laid place ds place' cs) (hplace : place.isSome = true ∨ ds ≠ []) :
    place'.isSome = true := by
  induction h with
  | nil => simpa using hplace
  | cons _ _ ih => exact ih (Or.inl rfl)

/-- A run in an open place, none of whose writes goes right there, is at every
key of the place the run of the writes that go below the key. -/
theorem child (h : Laid place ds place' cs) (hplace : Open place)
    (hkeys : ∀ d ∈ ds, d.keys ≠ []) (key : String) :
    Laid (childAt? place key) (ds.filterMap (Deposit.below? key)) (childAt? place' key)
      (cs.filterMap (Clash.below? key)) := by
  induction h with
  | nil => exact .nil
  | @cons place place' d ds w cs first _ ih =>
      obtain ⟨⟨es, hes⟩, hput⟩ :=
        Deposit.put_child hplace (hkeys d List.mem_cons_self) first key
      have hothers := ih (hes ▸ open_mapping es) fun d hd => hkeys d (List.mem_cons_of_mem _ hd)
      rw [List.filterMap_append, List.filterMap_cons]
      have hclash : w.clash.toList.filterMap (Clash.below? key) =
          (w.clash.bind (Clash.below? key)).toList := by
        cases w.clash with
        | none => rfl
        | some c => cases hc : Clash.below? key c <;> simp [hc]
      rw [hclash]
      cases hbelow : d.below? key with
      | none =>
          rw [hbelow] at hput
          obtain ⟨hchild, hnone⟩ := hput
          rw [hnone, ← hchild]
          exact hothers
      | some inner =>
          rw [hbelow] at hput
          obtain ⟨v, hv, hchild, hsome⟩ := hput
          rw [hsome]
          refine .cons hv ?_
          rw [← hchild]
          exact hothers

end Laid

/-! ## From a rebuild -/

/-- A displacement as it is reported. -/
def Clash.reported (c : Clash) : Collision := ⟨Path.ofSegments c.segments, c.kind⟩

theorem Write.keys_deposit_ne_nil (w : Write) : w.deposit.keys ≠ [] :=
  Path.segments_ne_nil w.path

theorem Node.write_eq_put (root : Node) (w : Write) :
    root.write w = (w.deposit.put (some root)).map fun written =>
      (written.node, written.clash.map Clash.reported) := by
  obtain ⟨first, rest, hkeys⟩ := List.exists_cons_of_ne_nil w.keys_deposit_ne_nil
  have hput : w.deposit.put (some root) = writeAt w.value w.append (Path.segments w.path) root := by
    show Deposit.put ⟨Path.segments w.path, _, _⟩ _ = _
    have hsegments : Path.segments w.path = first :: rest := hkeys
    rw [hsegments]
    rfl
  rw [write_eq, hput]
  rfl

theorem Laid.of_writeAll {n m : Node} {ws : List Write} {collisions : List Collision}
    (h : n.writeAll .overwrite ws = .ok (m, collisions)) :
    ∃ cs, Laid (some n) (ws.map Write.deposit) (some m) cs ∧
      collisions = cs.map Clash.reported := by
  induction ws generalizing n collisions with
  | nil =>
      rw [Node.writeAll] at h
      injection h with hpair
      obtain ⟨rfl, rfl⟩ := Prod.mk.inj hpair
      exact ⟨[], .nil, rfl⟩
  | cons w ws ih =>
      cases hwrite : n.write w with
      | none => rw [Node.writeAll, hwrite] at h; simp at h
      | some written =>
          obtain ⟨next, c⟩ := written
          rw [writeAll_overwrite_cons hwrite] at h
          cases hrest : next.writeAll .overwrite ws with
          | error failure => rw [hrest] at h; simp [Except.map] at h
          | ok built =>
              rw [hrest] at h
              injection h with hpair
              obtain ⟨rfl, rfl⟩ := Prod.mk.inj hpair
              obtain ⟨cs, hlaid, hcs⟩ := ih hrest
              rw [write_eq_put, Option.map_eq_some_iff] at hwrite
              obtain ⟨v, hv, hpair⟩ := hwrite
              obtain ⟨rfl, rfl⟩ := Prod.mk.inj hpair
              refine ⟨_, .cons hv hlaid, ?_⟩
              rw [List.map_append, hcs]
              cases v.clash <;> rfl

/-- A rebuild is a run that begins with an empty document. -/
theorem Laid.of_rebuild {m : Node} {ws : List Write} {collisions : List Collision}
    (h : rebuild .overwrite ws = .ok (m, collisions)) :
    ∃ cs, Laid (some (mapping [])) (ws.map Write.deposit) (some m) cs ∧
      collisions = cs.map Clash.reported :=
  Laid.of_writeAll h

end Trialbook

import Trialbook.Proofs.Turn

/-!
# A fragment between parentheses

Two readers have the same group open and the same text before them, up to where
the group ends. For the first reader nothing else is there, and it ends with one
group (`Tree.closes`). Then the second one comes to the end of the group at the
same place, whatever stands around it (`loop_enclosed`).

The induction is on the turns of the first reader. Both take the same items
(`Item.read_alike`), and an item does the same to what is inside of the group in
either (`Inside.exists_takes`). Two things can go wrong and neither does. A comment
that is still open at the end would leave the first reader without its closing
parenthesis. A parenthesis before the end that closes the group would leave it
with more than one group, and there is no way back from that (`Beyond`).
-/

namespace Trialbook.Pattern

namespace Tree

mutual

/-- The names of the groups in a tree. -/
def names : Tree → List String
  | empty | flags _ | literal _ | dot | position _ | cls _ => []
  | repetition _ _ _ body => body.names
  | group (.named name) body => name :: body.names
  | group .numbered body | group (.plain _) body => body.names
  | concat parts => allNames parts
  | alternation branches => allNames branches

/-- The names of the groups in several trees. -/
def allNames : List Tree → List String
  | [] => []
  | tree :: rest => tree.names ++ allNames rest

end

theorem mem_allNames {name : String} {trees : List Tree} :
    name ∈ allNames trees ↔ ∃ tree ∈ trees, name ∈ tree.names := by
  induction trees with
  | nil => simp [allNames]
  | cons tree rest ih => rw [allNames, List.mem_append, ih]; simp

theorem names_ofParts {parts : List Tree} : (ofParts parts).names = allNames parts := by
  unfold ofParts
  split
  · rfl
  · simp [allNames]
  · rfl

theorem names_ofBranches {branches : List Tree} :
    (ofBranches branches).names = allNames branches := by
  unfold ofBranches
  split
  · simp [allNames]
  · rfl

theorem names_group {kind : GroupKind} {body : Tree} {name : String}
    (h : name ∈ (group kind body).names) : kind = .named name ∨ name ∈ body.names := by
  cases kind with
  | numbered | plain => exact Or.inr h
  | named own =>
      rcases List.mem_cons.mp h with rfl | h
      · exact Or.inl rfl
      · exact Or.inr h

end Tree

namespace Reader

variable {v : Bool} {u u' w : Rest}

/-- Every name of a group in the level is known. -/
def Level.Within (l : Level) (known : List String) : Prop :=
  ∀ tree ∈ l.branches ++ l.parts, ∀ name ∈ tree.names, name ∈ known

namespace Level

variable {l : Level} {known : List String}

theorem Within.add {part : Tree} (h : l.Within known) (hpart : ∀ name ∈ part.names, name ∈ known) :
    (l.add part).Within known := by
  intro tree htree
  rcases List.mem_append.mp htree with htree | htree
  · exact h tree (List.mem_append_left _ htree)
  · rcases List.mem_cons.mp htree with rfl | htree
    · exact hpart
    · exact h tree (List.mem_append_right _ htree)

theorem Within.bar (h : l.Within known) : l.bar.Within known := by
  intro tree htree
  rw [Level.bar, List.append_nil] at htree
  rcases List.mem_cons.mp htree with rfl | htree
  · rw [Tree.names_ofParts]
    intro name hname
    obtain ⟨part, hpart, hname⟩ := Tree.mem_allNames.mp hname
    exact h part (List.mem_append_right _ (List.mem_reverse.mp hpart)) name hname
  · exact h tree (List.mem_append_left _ htree)

theorem Within.close (h : l.Within known) : ∀ name ∈ l.close.names, name ∈ known := by
  rw [Level.close, Tree.names_ofBranches]
  intro name hname
  obtain ⟨branch, hbranch, hname⟩ := Tree.mem_allNames.mp hname
  exact h.bar branch (List.mem_append_left _ (List.mem_reverse.mp hbranch)) name hname

theorem exists_of_repeated {least : Nat} {most : Option Nat} {greedy : Bool} {l' : Level}
    (h : l.repeated least most greedy = some l') :
    ∃ part parts, l.parts = part :: parts ∧
      l' = { l with parts := .repetition least most greedy part :: parts } := by
  unfold Level.repeated at h
  split at h
  · simp at h
  · simp at h
  · simp at h
  · next part parts _ _ hparts => exact ⟨part, parts, hparts, (Option.some.inj h).symm⟩

theorem Within.repeated {least : Nat} {most : Option Nat} {greedy : Bool} {l' : Level}
    (h : l.Within known) (hrepeated : l.repeated least most greedy = some l') :
    l'.Within known := by
  obtain ⟨part, parts, hparts, rfl⟩ := exists_of_repeated hrepeated
  intro tree htree
  rcases List.mem_append.mp htree with htree | htree
  · exact h tree (List.mem_append_left _ htree)
  · rcases List.mem_cons.mp htree with rfl | htree
    · exact h part (List.mem_append_right _ (hparts ▸ List.mem_cons_self))
    · exact h tree (List.mem_append_right _ (hparts ▸ List.mem_cons_of_mem _ htree))

theorem Within.mono {known' : List String} (h : l.Within known)
    (hsubset : ∀ name ∈ known, name ∈ known') : l.Within known' :=
  fun tree htree name hname => hsubset name (h tree htree name hname)

end Level

/-! ## What stands around a group -/

/-- What the reader remembers of a group and of what is open inside of it. -/
structure Inside where
  verbose : Bool
  level : Level
  outer : List Enclosing

namespace Inside

/-- The state of a reader that has also read something around the group. -/
def within (i : Inside) (around : List Enclosing) (names : List String) : State :=
  ⟨i.verbose, i.level, i.outer ++ around, names⟩

/-- Every name of a group that has been read or is open is known. -/
structure Known (i : Inside) (known : List String) : Prop where
  level : i.level.Within known
  outer : ∀ e ∈ i.outer, e.level.Within known
  kinds : ∀ e ∈ i.outer, ∀ name, e.kind = .named name → name ∈ known

theorem Known.mono {i : Inside} {known known' : List String} (h : i.Known known)
    (hsubset : ∀ name ∈ known, name ∈ known') : i.Known known' :=
  ⟨h.level.mono hsubset, fun e he => (h.outer e he).mono hsubset,
    fun e he name hname => hsubset name (h.kinds e he name hname)⟩

end Inside

/-- An item whose part has no groups. Groups are read an item at a time. -/
def Item.Nameless : Item → Prop
  | .part tree => tree.names = []
  | _ => True

theorem EscapeKind.names_of_read {kind : EscapeKind} {tree : Tree}
    (hkind : ∀ t, kind = .tree t → t.names = [])
    (h : kind.read v u = some (tree, u')) : tree.names = [] := by
  cases kind with
  | tree t =>
      obtain ⟨rfl, -⟩ := Prod.mk.inj (Option.some.inj h)
      exact hkind t rfl
  | code digits =>
      obtain ⟨p, -, hp⟩ := Option.map_eq_some_iff.mp h
      rw [← (Prod.mk.inj hp).1]
      rfl
  | property negated =>
      obtain ⟨p, -, hp⟩ := Option.map_eq_some_iff.mp h
      rw [← (Prod.mk.inj hp).1]
      rfl
  | boundary =>
      obtain ⟨p, -, hp⟩ := Option.map_eq_some_iff.mp h
      rw [← (Prod.mk.inj hp).1]
      rfl

theorem names_of_escapeKind? {c : Char} {tree : Tree} (h : escapeKind? c = some (.tree tree)) :
    tree.names = [] := by
  unfold escapeKind? at h
  split at h
  · obtain rfl := EscapeKind.tree.inj (Option.some.inj h)
    rfl
  · split at h
    all_goals
      cases h
      try rfl

theorem names_of_escape {tree : Tree} (h : escape v u = some (tree, u')) : tree.names = [] := by
  cases u with
  | nil => simp [escape] at h
  | cons c rest =>
      rw [escape_cons] at h
      obtain ⟨kind, hkind, hread⟩ := Option.bind_eq_some_iff.mp h
      refine EscapeKind.names_of_read (fun t ht => ?_) hread
      rw [ht] at hkind
      exact names_of_escapeKind? hkind

theorem Item.nameless_of_read {item : Item} {c : Char} (h : Item.read v c u = some (item, u')) :
    item.Nameless := by
  unfold Item.read at h
  split at h
  · obtain ⟨⟨o, rest⟩, -, hp⟩ := Option.map_eq_some_iff.mp h
    rw [← (Prod.mk.inj hp).1]
    cases o <;> trivial
  · rw [← (Prod.mk.inj (Option.some.inj h)).1]
    trivial
  · rw [← (Prod.mk.inj (Option.some.inj h)).1]
    trivial
  · obtain ⟨p, -, hp⟩ := Option.map_eq_some_iff.mp h
    rw [← (Prod.mk.inj hp).1]
    rfl
  · rw [← (Prod.mk.inj (Option.some.inj h)).1]
    trivial
  · rw [← (Prod.mk.inj (Option.some.inj h)).1]
    trivial
  · rw [← (Prod.mk.inj (Option.some.inj h)).1]
    trivial
  · obtain ⟨p, -, hp⟩ := Option.bind_eq_some_iff.mp h
    rw [← (Prod.mk.inj (Option.some.inj hp)).1]
    trivial
  · obtain ⟨p, hp, hitem⟩ := Option.map_eq_some_iff.mp h
    rw [← (Prod.mk.inj hitem).1]
    exact names_of_escape hp
  all_goals
    rw [← (Prod.mk.inj (Option.some.inj h)).1]
    rfl

theorem Item.eq_of_read_leave {c : Char} (h : Item.read v c u = some (.leave, u')) :
    c = ')' ∧ u' = u := by
  unfold Item.read Item.repeats at h
  split at h
  · obtain ⟨⟨o, rest⟩, -, hp⟩ := Option.map_eq_some_iff.mp h
    cases o <;> simp [Item.ofOpening] at hp
  · exact ⟨rfl, (Prod.mk.inj (Option.some.inj h)).2.symm⟩
  · simp at h
  · simp at h
  · simp at h
  · simp at h
  · simp at h
  · obtain ⟨p, -, hp⟩ := Option.bind_eq_some_iff.mp h
    simp at hp
  all_goals simp at h

namespace Inside

/-- The item makes this of what is inside of a group, whatever stands around it,
and brings these names of groups. -/
structure Takes (i : Inside) (item : Item) (i' : Inside) (new : List String) : Prop where
  eq_within : ∀ {around names s}, (i.within around names).take item = some s →
    s = i'.within around (new ++ names)
  known : ∀ {known}, i.Known known → item.Nameless → i'.Known (new ++ known)

theorem known_enter {i : Inside} {known : List String} (h : i.Known known) (v' : Bool)
    (kind : GroupKind) (hkind : ∀ name, kind = .named name → name ∈ known) :
    (Inside.mk v' ⟨[], []⟩ (⟨i.level, kind, i.verbose⟩ :: i.outer)).Known known := by
  refine ⟨fun tree htree => ?_, fun e he => ?_, fun e he => ?_⟩
  · simp at htree
  · rcases List.mem_cons.mp he with rfl | he
    · exact h.level
    · exact h.outer e he
  · rcases List.mem_cons.mp he with rfl | he
    · exact hkind
    · exact h.kinds e he

theorem exists_takes_enter (i : Inside) (kind : GroupKind) :
    ∃ i' new, i.Takes (.enter kind) i' new := by
  cases kind with
  | numbered =>
      exact ⟨⟨i.verbose, ⟨[], []⟩, ⟨i.level, .numbered, i.verbose⟩ :: i.outer⟩, [],
        fun h => (Option.some.inj h).symm, fun hknown _ => known_enter hknown _ _ (by simp)⟩
  | plain changes =>
      exact ⟨⟨(verboseIn changes).getD i.verbose, ⟨[], []⟩,
          ⟨i.level, .plain changes, i.verbose⟩ :: i.outer⟩, [],
        fun h => (Option.some.inj h).symm, fun hknown _ => known_enter hknown _ _ (by simp)⟩
  | named name =>
      refine ⟨⟨i.verbose, ⟨[], []⟩, ⟨i.level, .named name, i.verbose⟩ :: i.outer⟩, [name],
        fun {around names s} h => ?_, fun hknown _ => ?_⟩
      · have h : (if names.contains name then none else some _) = some s := h
        split at h
        · simp at h
        · exact (Option.some.inj h).symm
      · exact known_enter (hknown.mono fun other => List.mem_cons_of_mem name) _ _ (by simp)

theorem takes_leave {i : Inside} {e : Enclosing} {outer : List Enclosing}
    (houter : i.outer = e :: outer) :
    i.Takes .leave ⟨e.verbose, e.level.add (.group e.kind i.level.close), outer⟩ [] := by
  refine ⟨fun h => ?_, fun hknown _ => ?_⟩
  · simp only [State.take, State.leave, within, houter, List.cons_append] at h
    exact (Option.some.inj h).symm
  · have he : e ∈ i.outer := houter ▸ List.mem_cons_self
    have hothers : ∀ other ∈ outer, other ∈ i.outer := fun other hother =>
      houter ▸ List.mem_cons_of_mem _ hother
    refine ⟨(hknown.outer e he).add fun name hname => ?_,
      fun other hother => hknown.outer other (hothers other hother),
      fun other hother => hknown.kinds other (hothers other hother)⟩
    rcases Tree.names_group hname with hkind | hname
    · exact hknown.kinds e he name hkind
    · exact hknown.level.close name hname

/-- An item that is taken does the same to what is inside of a group whatever
stands around it, unless it closes the group. -/
theorem exists_takes {i : Inside} {item : Item} {around : List Enclosing} {names : List String}
    {s : State} (h : (i.within around names).take item = some s)
    (hleave : item = .leave → i.outer ≠ []) : ∃ i' new, i.Takes item i' new := by
  cases item with
  | part tree =>
      refine ⟨⟨i.verbose, i.level.add tree, i.outer⟩, [], fun h => (Option.some.inj h).symm,
        fun hknown hnameless => ?_⟩
      have htree : tree.names = [] := hnameless
      exact ⟨hknown.level.add (by simp [htree]), hknown.outer, hknown.kinds⟩
  | flags changes =>
      exact ⟨⟨(verboseIn changes).getD i.verbose, i.level.add (.flags changes), i.outer⟩, [],
        fun h => (Option.some.inj h).symm, fun hknown _ =>
          ⟨hknown.level.add (by simp [Tree.names]), hknown.outer, hknown.kinds⟩⟩
  | enter kind => exact exists_takes_enter i kind
  | leave =>
      obtain ⟨e, outer, houter⟩ := List.exists_cons_of_ne_nil (hleave rfl)
      exact ⟨_, _, takes_leave houter⟩
  | bar =>
      exact ⟨⟨i.verbose, i.level.bar, i.outer⟩, [], fun h => (Option.some.inj h).symm,
        fun hknown _ => ⟨hknown.level.bar, hknown.outer, hknown.kinds⟩⟩
  | again least most greedy =>
      obtain ⟨level, hlevel, -⟩ := Option.map_eq_some_iff.mp h
      refine ⟨⟨i.verbose, level, i.outer⟩, [], fun h => ?_,
        fun hknown _ => ⟨hknown.level.repeated hlevel, hknown.outer, hknown.kinds⟩⟩
      obtain ⟨level', hlevel', rfl⟩ := Option.map_eq_some_iff.mp h
      obtain rfl : level = level' := Option.some.inj (hlevel.symm.trans hlevel')
      rfl

end Inside

/-! ## More than one group -/

/-- Something has been read. -/
def Level.Begun (l : Level) : Prop := l.branches ≠ [] ∨ l.parts ≠ []

/-- What has been read is more than a group, whatever follows. -/
def Level.Mixed (l : Level) : Prop :=
  l.branches ≠ [] ∨ 2 ≤ l.parts.length ∨
    ∃ least most greedy body, l.parts = [.repetition least most greedy body]

namespace Level

variable {l : Level}

theorem Begun.mixed_add (h : l.Begun) (part : Tree) : (l.add part).Mixed := by
  rcases h with h | h
  · exact Or.inl h
  · refine Or.inr (Or.inl ?_)
    have hlength := List.length_pos_iff.mpr h
    rw [Level.add, List.length_cons]
    omega

theorem mixed_bar (l : Level) : l.bar.Mixed := Or.inl (List.cons_ne_nil _ _)

theorem mixed_of_repeated {least : Nat} {most : Option Nat} {greedy : Bool} {l' : Level}
    (h : l.repeated least most greedy = some l') : l'.Mixed := by
  obtain ⟨part, parts, -, rfl⟩ := exists_of_repeated h
  cases parts with
  | nil => exact Or.inr (Or.inr ⟨least, most, greedy, part, rfl⟩)
  | cons next parts => exact Or.inr (Or.inl (by simp))

theorem Mixed.begun (h : l.Mixed) : l.Begun := by
  rcases h with h | h | ⟨least, most, greedy, body, h⟩
  · exact Or.inl h
  · exact Or.inr (List.length_pos_iff.mp (by omega))
  · exact Or.inr (by simp [h])

theorem ofParts_of_two_le {parts : List Tree} (h : 2 ≤ parts.length) :
    Tree.ofParts parts = .concat parts := by
  match parts, h with
  | _ :: _ :: _, _ => rfl

theorem Mixed.close_ne_group (h : l.Mixed) (kind : GroupKind) (body : Tree) :
    l.close ≠ .group kind body := by
  intro hclose
  by_cases hbranches : l.branches = []
  · have hparts : l.close = Tree.ofParts l.parts.reverse := by
      rw [Level.close, Level.bar, hbranches]
      rfl
    rw [hparts] at hclose
    rcases h with h | h | ⟨least, most, greedy, repeated, h⟩
    · exact h hbranches
    · rw [ofParts_of_two_le (by simpa using h)] at hclose
      simp at hclose
    · rw [h] at hclose
      simp [Tree.ofParts] at hclose
  · have hclose' : l.close = .alternation l.bar.branches.reverse := by
      obtain ⟨branch, branches, hcons⟩ := List.exists_cons_of_ne_nil
        (List.reverse_ne_nil_iff.mpr hbranches)
      rw [Level.close, Level.bar, List.reverse_cons, hcons]
      cases branches <;> rfl
    rw [hclose'] at hclose
    simp at hclose

end Level

/-- The outermost part of what has been read has begun, and there is no way
back to a single group. -/
inductive Beyond : State → Prop
  | here {s : State} (houter : s.outer = []) (hlevel : s.level.Mixed) : Beyond s
  | inside {s : State} {outer : List Enclosing} {e : Enclosing} (houter : s.outer = outer ++ [e])
      (hlevel : e.level.Begun) : Beyond s

theorem beyond_take {s s' : State} {item : Item}
    (h : (s.outer = [] ∧ s.level.Begun) ∨ ∃ outer e, s.outer = outer ++ [e] ∧ e.level.Begun)
    (htake : s.take item = some s') : Beyond s' := by
  -- only the outermost level counts, which an open group keeps from being touched
  have hlevel : ∀ (level : Level) (v' : Bool) (names : List String),
      (s.outer = [] → level.Mixed) → Beyond ⟨v', level, s.outer, names⟩ := by
    intro level v' names hmixed
    rcases h with ⟨houter, -⟩ | ⟨outer, e, houter, hbegun⟩
    · exact .here houter (hmixed houter)
    · exact .inside houter hbegun
  have hadd : ∀ part, s.outer = [] → (s.level.add part).Mixed := by
    intro part houter
    rcases h with ⟨-, hbegun⟩ | ⟨outer, e, houter', -⟩
    · exact hbegun.mixed_add part
    · simp [houter'] at houter
  have henter : ∀ kind v' names,
      Beyond ⟨v', ⟨[], []⟩, ⟨s.level, kind, s.verbose⟩ :: s.outer, names⟩ := by
    intro kind v' names
    rcases h with ⟨houter, hbegun⟩ | ⟨outer, e, houter, hbegun⟩
    · exact .inside (show _ = [] ++ [_] by rw [houter]; rfl) hbegun
    · exact .inside (show _ = (_ :: outer) ++ [e] by rw [houter, List.cons_append]) hbegun
  cases item with
  | part tree =>
      obtain rfl := Option.some.inj htake
      exact hlevel _ _ _ (hadd tree)
  | flags changes =>
      obtain rfl := Option.some.inj htake
      exact hlevel _ _ _ (hadd (.flags changes))
  | enter kind =>
      obtain ⟨names, rfl⟩ := exists_of_enter htake
      exact henter kind _ names
  | leave =>
      rcases h with ⟨houter, -⟩ | ⟨outer, e, houter, hbegun⟩
      · simp [State.take, State.leave, houter] at htake
      · cases outer with
        | nil =>
            rw [State.take, State.leave, houter] at htake
            obtain rfl := Option.some.inj htake
            exact .here rfl (hbegun.mixed_add _)
        | cons inner outer =>
            rw [State.take, State.leave, houter] at htake
            obtain rfl := Option.some.inj htake
            exact .inside rfl hbegun
  | bar =>
      obtain rfl := Option.some.inj htake
      exact hlevel _ _ _ fun _ => s.level.mixed_bar
  | again least most greedy =>
      obtain ⟨level, hrepeated, rfl⟩ := Option.map_eq_some_iff.mp htake
      exact hlevel _ _ _ fun _ => Level.mixed_of_repeated hrepeated

theorem Beyond.ne_group {fuel : Nat} {s : State} {tree : Tree} (h : Beyond s)
    (hread : loop fuel s u = some tree) (kind : GroupKind) (body : Tree) :
    tree ≠ .group kind body := by
  induction fuel generalizing s u with
  | zero => simp [loop] at hread
  | succ fuel ih =>
      cases hskip : skip s.verbose u with
      | nil =>
          rw [loop_nil hskip] at hread
          cases h with
          | here houter hlevel =>
              rw [houter] at hread
              obtain rfl := Option.some.inj hread
              exact hlevel.close_ne_group kind body
          | inside houter =>
              rw [houter] at hread
              simp at hread
      | cons c cs =>
          obtain ⟨_, item, u', s', hfuel, -, htake, hread⟩ := exists_turn hread hskip
          obtain rfl := Nat.succ.inj hfuel
          refine ih (beyond_take ?_ htake) hread
          cases h with
          | here houter hlevel => exact Or.inl ⟨houter, hlevel.begun⟩
          | inside houter hlevel => exact Or.inr ⟨_, _, houter, hlevel⟩

/-- Nothing stands behind a group that is all there is. -/
theorem eq_nil_of_group {fuel : Nat} {s : State} {kind : GroupKind} {body : Tree}
    (houter : s.outer = []) (hverbose : s.verbose = false) (hlevel : s.level.Begun)
    (hread : loop fuel s u = some (.group kind body)) : u = [] := by
  by_contra hne
  obtain ⟨c, cs, rfl⟩ := List.exists_cons_of_ne_nil hne
  have hskip : skip s.verbose (c :: cs) = c :: cs := by rw [hverbose]; rfl
  obtain ⟨fuel, item, u', s', -, -, htake, hread⟩ := exists_turn hread hskip
  exact (beyond_take (Or.inl ⟨houter, hlevel⟩) htake).ne_group hread kind body rfl

/-! ## A group in its place -/

theorem ne_nil_of_loop {fuel : Nat} {s : State} {tree : Tree} (h : loop fuel s u = some tree)
    (houter : s.outer ≠ []) : skip s.verbose u ≠ [] := by
  intro hskip
  cases fuel with
  | zero => simp [loop] at h
  | succ fuel =>
      rw [loop_nil hskip, if_neg (by simpa using houter)] at h
      simp at h

/-- The first reader reads a text up to the end of a group, and there is nothing
else to it. The second one, with the same group open, comes to the end of the
group at the same place and has read the same. -/
theorem loop_enclosed {fuel fuel' : Nat} {i : Inside} {outermost : GroupKind} {e : Enclosing}
    {around : List Enclosing} {names names' : List String} {kind : GroupKind} {alone tree : Tree}
    (hends : Ends u)
    (halone : loop fuel (i.within [⟨⟨[], []⟩, outermost, false⟩] names) u =
      some (.group kind alone))
    (hread : loop fuel' (i.within (e :: around) names') (u ++ w) = some tree)
    (hknown : i.Known names') :
    kind = outermost ∧ ∃ fuel'' known,
      loop fuel'' ⟨e.verbose, e.level.add (.group e.kind alone), around, known⟩ w = some tree ∧
        (∀ name ∈ names', name ∈ known) ∧ ∀ name ∈ alone.names, name ∈ known := by
  induction fuel generalizing fuel' i names names' u with
  | zero => simp [loop] at halone
  | succ fuel ih =>
      have houter : (i.within [⟨⟨[], []⟩, outermost, false⟩] names).outer ≠ [] := by
        simp [Inside.within]
      have hne := ne_nil_of_loop halone houter
      obtain ⟨c, cs, hskip⟩ := List.exists_cons_of_ne_nil hne
      have hskip' : skip (i.within (e :: around) names').verbose (u ++ w) = c :: (cs ++ w) :=
        skip_append_of_cons hskip w
      obtain ⟨_, item, u', s, hfuel, hitem, htake, halone⟩ := exists_turn halone hskip
      obtain rfl := Nat.succ.inj hfuel
      obtain ⟨fuel', item', v', s', rfl, hitem', htake', hread⟩ := exists_turn hread hskip'
      have hcs : Ends cs := by
        have hsuffix : c :: cs <:+ u := hskip ▸ skip_suffix _ u
        exact hends.of_suffix ((List.suffix_cons c cs).trans hsuffix)
      obtain ⟨hsuffix, happend⟩ := Item.read_alike i.verbose c cs item u' hitem
      by_cases hclose : item = .leave ∧ i.outer = []
      · -- the group of the first reader closes, which ends its text
        obtain ⟨rfl, hinner⟩ := hclose
        obtain ⟨rfl, rfl⟩ := Item.eq_of_read_leave hitem
        obtain ⟨rfl, rfl⟩ := Prod.mk.inj (Option.some.inj hitem')
        simp only [State.take, State.leave, Inside.within, hinner, List.nil_append] at htake htake'
        obtain rfl := Option.some.inj htake
        obtain rfl := Option.some.inj htake'
        obtain rfl := eq_nil_of_group rfl rfl (Or.inr (List.cons_ne_nil _ _)) halone
        cases fuel with
        | zero => simp [loop] at halone
        | succ fuel =>
            rw [loop_nil rfl] at halone
            obtain ⟨rfl, rfl⟩ := Tree.group.inj (Option.some.inj halone)
            exact ⟨rfl, fuel', names', hread, fun _ => id, hknown.level.close⟩
      · -- both readers take the item, and the first one has something left to read
        have hinner : item = .leave → i.outer ≠ [] := fun hleave hinner =>
          hclose ⟨hleave, hinner⟩
        obtain ⟨i', new, htakes⟩ := Inside.exists_takes htake hinner
        obtain rfl := htakes.eq_within htake
        have hu' : u' ≠ [] := by
          rintro rfl
          exact ne_nil_of_loop halone (by simp [Inside.within]) (skip_nil _)
        obtain ⟨rfl, rfl⟩ := Prod.mk.inj
          (Option.some.inj ((happend w (.inl ⟨hcs, hu'⟩)).symm.trans hitem'))
        obtain rfl := htakes.eq_within htake'
        obtain ⟨hkind, fuel'', known, htree, hnames, halone⟩ := ih (hcs.of_suffix hsuffix) halone
          hread (htakes.known hknown (Item.nameless_of_read hitem))
        exact ⟨hkind, fuel'', known, htree,
          fun name hname => hnames name (List.mem_append_right _ hname), halone⟩

end Reader

/-- Whether parentheses around a text make one group of it. -/
def Tree.closes (text : List Char) : Bool :=
  match Tree.ofChars? ('(' :: '?' :: ':' :: (text ++ [')'])) with
  | some (.group ..) => true
  | _ => false

namespace Reader

theorem exists_loop_of_closes {text : List Char} (h : Tree.closes text = true) :
    ∃ kind body, Tree.ofChars? ('(' :: '?' :: ':' :: (text ++ [')'])) = some (.group kind body) ∧
      ∃ fuel, loop fuel ((Inside.mk false ⟨[], []⟩ []).within [⟨⟨[], []⟩, .plain [], false⟩] [])
        (text ++ [')']) = some (.group kind body) := by
  unfold Tree.closes at h
  split at h
  · next kind body htree =>
      obtain ⟨hloop, -⟩ := Option.filter_eq_some_iff.mp htree
      obtain ⟨fuel, item, u', s, -, hitem, htake, hread⟩ := exists_turn hloop rfl
      have hopen : Item.read false '(' ('?' :: ':' :: (text ++ [')'])) =
          some (.enter (.plain []), text ++ [')']) := rfl
      obtain ⟨rfl, rfl⟩ := Prod.mk.inj (Option.some.inj (hopen.symm.trans hitem))
      obtain rfl := Option.some.inj htake
      exact ⟨kind, body, htree, fuel, hread⟩
  · simp at h

end Reader

end Trialbook.Pattern

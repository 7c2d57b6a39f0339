import Trialbook.Proofs.Numbering

/-!
# A fragment in its place

A fragment that asks nothing of the places around it and never turns verbose mode
on (`Tree.selfContained`) is the same wherever it stands. Between parentheses it
reads as it reads alone (`loop_in_place`), and behind other groups it matches what
it matches alone (`Tree.matches_in_place`).

Verbose mode is the only reason to say something about flags. With it a comment
could swallow the closing parenthesis. Without it the reader sees that parenthesis
wherever the fragment ends, and takes no further look ahead (`Shuts`).

What has been read is part of the tree in the end. So the condition is one on the
final tree, and holds of every state that the reader was in before
(`selfContained_of_loop`).
-/

namespace Trialbook.Pattern

/-- Whether flags leave verbose mode alone, or turn it off. -/
def Reader.terse (changes : List FlagChange) : Bool := verboseIn changes != some true

namespace Tree

mutual

/-- Whether a tree asks nothing of the places around it, and turns verbose mode
on nowhere. -/
def selfContained : Tree → Bool
  | empty | literal _ | dot | cls _ => true
  | position _ => false
  | flags changes => Reader.terse changes
  | repetition _ _ _ body => body.selfContained
  | group kind body => Reader.terse (Reader.flagsOf kind) && body.selfContained
  | concat parts => allSelfContained parts
  | alternation branches => allSelfContained branches

/-- Whether none of several trees asks anything of the places around it. -/
def allSelfContained : List Tree → Bool
  | [] => true
  | tree :: rest => tree.selfContained && allSelfContained rest

end

theorem allSelfContained_iff {trees : List Tree} :
    allSelfContained trees = true ↔ ∀ tree ∈ trees, tree.selfContained = true := by
  induction trees with
  | nil => simp [allSelfContained]
  | cons tree rest ih => simp [allSelfContained, ih]

theorem selfContained_ofParts {parts : List Tree} :
    (ofParts parts).selfContained = allSelfContained parts := by
  unfold ofParts
  split
  · rfl
  · simp [allSelfContained]
  · rfl

theorem selfContained_ofBranches {branches : List Tree} :
    (ofBranches branches).selfContained = allSelfContained branches := by
  unfold ofBranches
  split
  · simp [allSelfContained]
  · rfl

end Tree

namespace Reader

variable {u u' w : Rest}

/-! ## What has been read -/

/-- Nothing in the level asks anything of the places around it. -/
def Level.SelfContained (l : Level) : Prop :=
  ∀ tree ∈ l.branches ++ l.parts, tree.selfContained = true

namespace Level

variable {l : Level}

theorem selfContained_add_iff {part : Tree} :
    (l.add part).SelfContained ↔ part.selfContained = true ∧ l.SelfContained := by
  simp only [SelfContained, Level.add, List.forall_mem_append, List.forall_mem_cons]
  exact and_left_comm

theorem selfContained_bar_iff : l.bar.SelfContained ↔ l.SelfContained := by
  rw [SelfContained, Level.bar, List.append_nil, List.forall_mem_cons, SelfContained,
    List.forall_mem_append, Tree.selfContained_ofParts, Tree.allSelfContained_iff]
  simp only [List.mem_reverse]
  exact and_comm

theorem selfContained_close_iff : l.close.selfContained = true ↔ l.SelfContained := by
  rw [← selfContained_bar_iff, Level.close, Tree.selfContained_ofBranches,
    Tree.allSelfContained_iff]
  simp only [SelfContained, Level.bar, List.append_nil, List.mem_reverse]

theorem SelfContained.of_repeated {least : Nat} {most : Option Nat} {greedy : Bool} {l' : Level}
    (h : l'.SelfContained) (hrepeated : l.repeated least most greedy = some l') :
    l.SelfContained := by
  obtain ⟨part, parts, hparts, rfl⟩ := exists_of_repeated hrepeated
  obtain ⟨hpart, hothers⟩ := (selfContained_add_iff (l := { l with parts })).mp h
  have hl : l = Level.add { l with parts } part := by rw [Level.add, ← hparts]
  rw [hl]
  exact selfContained_add_iff.mpr ⟨hpart, hothers⟩

end Level

/-- Nothing that has been read asks anything of the places around it. -/
structure State.SelfContained (s : State) : Prop where
  level : s.level.SelfContained
  outer : ∀ e ∈ s.outer, e.level.SelfContained ∧ terse (flagsOf e.kind) = true

/-- An item takes nothing away from what has been read. -/
theorem selfContained_of_take {s s' : State} {item : Item} (h : s'.SelfContained)
    (htake : s.take item = some s') : s.SelfContained := by
  cases item with
  | part tree =>
      obtain rfl := Option.some.inj htake
      exact ⟨(Level.selfContained_add_iff.mp h.level).2, h.outer⟩
  | flags changes =>
      obtain rfl := Option.some.inj htake
      exact ⟨(Level.selfContained_add_iff.mp h.level).2, h.outer⟩
  | enter kind =>
      obtain ⟨names, rfl⟩ := exists_of_enter htake
      obtain ⟨hcurrent, houter⟩ := List.forall_mem_cons.mp h.outer
      exact ⟨hcurrent.1, houter⟩
  | leave =>
      rw [State.take, State.leave] at htake
      split at htake
      · simp at htake
      · next e outer houter =>
          obtain rfl := Option.some.inj htake
          obtain ⟨hgroup, hlevel⟩ := Level.selfContained_add_iff.mp h.level
          rw [Tree.selfContained, Bool.and_eq_true] at hgroup
          refine ⟨Level.selfContained_close_iff.mp hgroup.2, fun other hother => ?_⟩
          rw [houter] at hother
          rcases List.mem_cons.mp hother with rfl | hother
          · exact ⟨hlevel, hgroup.1⟩
          · exact h.outer other hother
  | bar =>
      obtain rfl := Option.some.inj htake
      exact ⟨Level.selfContained_bar_iff.mp h.level, h.outer⟩
  | again least most greedy =>
      obtain ⟨level, hrepeated, rfl⟩ := Option.map_eq_some_iff.mp htake
      exact ⟨h.level.of_repeated hrepeated, h.outer⟩

/-- What has been read is part of the tree in the end. -/
theorem selfContained_of_loop {fuel : Nat} {s : State} {tree : Tree}
    (h : loop fuel s u = some tree) (htree : tree.selfContained = true) : s.SelfContained := by
  induction fuel generalizing s u with
  | zero => simp [loop] at h
  | succ fuel ih =>
      cases hskip : skip s.verbose u with
      | nil =>
          rw [loop_nil hskip] at h
          obtain ⟨houter, h⟩ := Option.ite_none_right_eq_some.mp h
          obtain rfl := Option.some.inj h
          refine ⟨Level.selfContained_close_iff.mp htree, ?_⟩
          rw [List.isEmpty_iff.mp houter]
          simp
      | cons c cs =>
          obtain ⟨_, item, u', s', hfuel, -, htake, hread⟩ := exists_turn h hskip
          obtain rfl := Nat.succ.inj hfuel
          exact selfContained_of_take (ih hread) htake

/-! ## Verbose mode -/

/-- Verbose mode is off, and stays off when the groups around are left. -/
structure State.Terse (s : State) : Prop where
  verbose : s.verbose = false
  outer : ∀ e ∈ s.outer, e.verbose = false

theorem getD_verboseIn {v : Bool} {changes : List FlagChange} (h : terse changes = true)
    (hv : v = false) : (verboseIn changes).getD v = false := by
  rw [terse] at h
  cases hlast : verboseIn changes with
  | none => exact hv
  | some on =>
      rw [hlast] at h
      simpa using h

theorem State.Terse.take {s s' : State} {item : Item} (h : s.Terse) (hs : s'.SelfContained)
    (htake : s.take item = some s') : s'.Terse := by
  cases item with
  | part tree =>
      obtain rfl := Option.some.inj htake
      exact ⟨h.verbose, h.outer⟩
  | flags changes =>
      obtain rfl := Option.some.inj htake
      exact ⟨getD_verboseIn (Level.selfContained_add_iff.mp hs.level).1 h.verbose, h.outer⟩
  | enter kind =>
      obtain ⟨names, rfl⟩ := exists_of_enter htake
      exact ⟨getD_verboseIn (hs.outer _ List.mem_cons_self).2 h.verbose,
        List.forall_mem_cons.mpr ⟨h.verbose, h.outer⟩⟩
  | leave =>
      rw [State.take, State.leave] at htake
      split at htake
      · simp at htake
      · next e outer houter =>
          obtain rfl := Option.some.inj htake
          obtain ⟨hverbose, hothers⟩ := List.forall_mem_cons.mp (houter ▸ h.outer)
          exact ⟨hverbose, hothers⟩
  | bar =>
      obtain rfl := Option.some.inj htake
      exact ⟨h.verbose, h.outer⟩
  | again least most greedy =>
      obtain ⟨level, -, rfl⟩ := Option.map_eq_some_iff.mp htake
      exact ⟨h.verbose, h.outer⟩

/-! ## Reading in place -/

/-- The first reader reads a text to its end. The second one, in a group that closes
behind the text, comes to the end of the group with the same tree. -/
theorem loop_in_place {fuel fuel' : Nat} {i : Inside} {e : Enclosing} {around : List Enclosing}
    {names names' : List String} {alone tree : Tree} (hterse : (i.within [] names).Terse)
    (halone : loop fuel (i.within [] names) u = some alone)
    (hfree : alone.selfContained = true)
    (hread : loop fuel' (i.within (e :: around) names') (u ++ ')' :: w) = some tree) :
    ∃ fuel'' known, loop fuel'' ⟨e.verbose, e.level.add (.group e.kind alone), around, known⟩ w =
      some tree := by
  induction fuel generalizing fuel' i names names' u with
  | zero => simp [loop] at halone
  | succ fuel ih =>
      have hverbose : i.verbose = false := hterse.verbose
      have hskip : ∀ cs, skip i.verbose cs = cs := fun cs => by rw [hverbose]; rfl
      cases u with
      | nil =>
          -- the text ends, and the parenthesis behind it closes the group
          rw [loop_nil (hskip [])] at halone
          obtain ⟨houter, halone⟩ := Option.ite_none_right_eq_some.mp halone
          obtain rfl := Option.some.inj halone
          have hinner : i.outer = [] := by simpa [Inside.within] using houter
          obtain ⟨fuel', item, u', s', rfl, hitem, htake, hread⟩ := exists_turn hread (hskip _)
          obtain ⟨rfl, rfl⟩ := Prod.mk.inj (Option.some.inj hitem)
          simp only [State.take, State.leave, Inside.within, hinner, List.nil_append] at htake
          obtain rfl := Option.some.inj htake
          exact ⟨fuel', names', hread⟩
      | cons c cs =>
          obtain ⟨_, item, u', s, hfuel, hitem, htake, halone⟩ := exists_turn halone (hskip _)
          obtain rfl := Nat.succ.inj hfuel
          obtain ⟨fuel', item', v', s', rfl, hitem', htake', hread⟩ := exists_turn hread (hskip _)
          obtain ⟨-, happend⟩ := Item.read_alike i.verbose c cs item u' hitem
          obtain ⟨rfl, rfl⟩ := Prod.mk.inj (Option.some.inj
            ((happend (')' :: w) (.inr ⟨hverbose, rfl⟩)).symm.trans hitem'))
          have hinner : item = .leave → i.outer ≠ [] := by
            rintro rfl hinner
            simp [State.take, State.leave, Inside.within, hinner] at htake
          obtain ⟨i', new, htakes⟩ := Inside.exists_takes htake hinner
          obtain rfl := htakes.eq_within htake
          obtain rfl := htakes.eq_within htake'
          exact ih (hterse.take (selfContained_of_loop halone hfree) htake) halone hread

end Reader

/-! ## Matching in place -/

theorem Core.unnumbered_grouped {core core' : Core} (h : core'.unnumbered = core.unnumbered)
    (index index' : Nat) (kind : GroupKind) :
    (core'.grouped index' kind).unnumbered = (core.grouped index kind).unnumbered := by
  cases kind with
  | plain => exact h
  | numbered | named => exact congrArg (Core.group 0) h

theorem Core.lookFree_grouped (core : Core) (index : Nat) (kind : GroupKind) :
    (core.grouped index kind).lookFree = core.lookFree := by
  cases kind <;> rfl

theorem Core.matches_grouped_iff {core : Core} {index : Nat} {kind : GroupKind}
    {before text behind : List Char} :
    (core.grouped index kind).Matches before text behind ↔ core.Matches before text behind := by
  cases kind with
  | plain => exact Iff.rfl
  | numbered | named =>
      constructor
      · intro h
        cases h with
        | group h => exact h
      · exact .group

namespace Tree

variable [Dialect]

/-- What a tree means in two contexts differs in the numbers of groups only. -/
structure SameMeaning (core core' : Core) (c c' : Context) : Prop where
  unnumbered : core'.unnumbered = core.unnumbered
  mode : c'.mode = c.mode

mutual

/-- The meaning of a tree depends on the flags in force, apart from the numbers of its
groups. -/
theorem exists_meaning (tree : Tree) {c c' d : Context} {core : Core} (hmode : d.mode = c.mode)
    (h : tree.meaning c = some (core, c')) :
    ∃ core' d', tree.meaning d = some (core', d') ∧ SameMeaning core core' c' d' := by
  cases tree with
  | empty =>
      rw [meaning] at h ⊢
      obtain ⟨rfl, rfl⟩ := Prod.mk.inj (Option.some.inj h)
      exact ⟨_, _, rfl, rfl, hmode⟩
  | flags changes =>
      rw [meaning] at h ⊢
      obtain ⟨rfl, rfl⟩ := Prod.mk.inj (Option.some.inj h)
      exact ⟨_, _, rfl, rfl, congrArg (Mode.changes · changes) hmode⟩
  | position =>
      rw [meaning] at h ⊢
      obtain ⟨rfl, rfl⟩ := Prod.mk.inj (Option.some.inj h)
      rw [hmode]
      exact ⟨_, _, rfl, rfl, hmode⟩
  | literal | dot | cls =>
      rw [meaning] at h ⊢
      obtain ⟨points, hpoints, h⟩ := Option.bind_eq_some_iff.mp h
      obtain ⟨rfl, rfl⟩ := Prod.mk.inj (Option.some.inj h)
      rw [hmode, hpoints]
      exact ⟨_, _, rfl, rfl, hmode⟩
  | repetition least most greedy body =>
      obtain ⟨inner, hinner, rfl⟩ := exists_of_meaning_repetition h
      obtain ⟨inner', after', hinner', hsame⟩ := exists_meaning body hmode hinner
      rw [meaning, hinner']
      refine ⟨_, _, rfl, ?_, hsame.mode⟩
      rw [Core.unnumbered_repetition, Core.unnumbered_repetition, hsame.unnumbered, hsame.mode]
  | group kind body =>
      obtain ⟨inner, after, hinner, rfl, rfl⟩ := exists_of_meaning_group h
      have hinside : (d.inside kind).mode = (c.inside kind).mode := by
        rw [Context.mode_inside, Context.mode_inside, hmode]
      obtain ⟨inner', after', hinner', hsame⟩ := exists_meaning body hinside hinner
      rw [meaning_group, hinner']
      exact ⟨_, _, rfl, Core.unnumbered_grouped hsame.unnumbered _ _ kind, hmode⟩
  | concat parts =>
      obtain ⟨cores, hcores, rfl⟩ := exists_of_meaning_concat h
      obtain ⟨cores', after', hcores', hsame, hafter⟩ := exists_meanings parts hmode hcores
      rw [meaning, hcores']
      refine ⟨_, _, rfl, ?_, hafter⟩
      rw [Core.unnumbered_sequence, Core.unnumbered_sequence, hsame]
  | alternation branches =>
      obtain ⟨cores, hcores, rfl⟩ := exists_of_meaning_alternation h
      obtain ⟨cores', after', hcores', hsame, hafter⟩ := exists_meanings branches hmode hcores
      rw [meaning, hcores']
      refine ⟨_, _, rfl, ?_, hafter⟩
      rw [Core.unnumbered_choice, Core.unnumbered_choice, hsame]

theorem exists_meanings (trees : List Tree) {c c' d : Context} {cores : List Core}
    (hmode : d.mode = c.mode) (h : meanings trees c = some (cores, c')) :
    ∃ cores' d', meanings trees d = some (cores', d') ∧
      cores'.map Core.unnumbered = cores.map Core.unnumbered ∧ d'.mode = c'.mode := by
  cases trees with
  | nil =>
      rw [meanings] at h ⊢
      obtain ⟨rfl, rfl⟩ := Prod.mk.inj (Option.some.inj h)
      exact ⟨[], d, rfl, rfl, hmode⟩
  | cons tree rest =>
      obtain ⟨core, others, mid, hcore, hothers, rfl⟩ := exists_of_meanings_cons h
      obtain ⟨core', mid', hcore', hsame⟩ := exists_meaning tree hmode hcore
      obtain ⟨others', after', hothers', hrest, hafter⟩ := exists_meanings rest hsame.mode hothers
      refine ⟨core' :: others', after', ?_, ?_, hafter⟩
      · rw [meanings, hcore']
        show (meanings rest mid').bind _ = _
        rw [hothers']
        rfl
      · rw [List.map_cons, List.map_cons, hsame.unnumbered, hrest]

end

mutual

/-- A tree that asks nothing of the places around it means a pattern that looks at
none. -/
theorem lookFree_of_meaning (tree : Tree) {c c' : Context} {core : Core}
    (hfree : tree.selfContained = true) (h : tree.meaning c = some (core, c')) :
    core.lookFree = true := by
  cases tree with
  | empty | flags =>
      rw [meaning] at h
      obtain ⟨rfl, -⟩ := Prod.mk.inj (Option.some.inj h)
      rfl
  | position => simp [selfContained] at hfree
  | literal | dot | cls =>
      rw [meaning] at h
      obtain ⟨points, -, h⟩ := Option.bind_eq_some_iff.mp h
      obtain ⟨rfl, -⟩ := Prod.mk.inj (Option.some.inj h)
      rfl
  | repetition least most greedy body =>
      obtain ⟨inner, hinner, rfl⟩ := exists_of_meaning_repetition h
      refine (Core.Made.repetition least most _ inner).lookFree fun core hcore => ?_
      rw [List.mem_singleton.mp hcore]
      exact lookFree_of_meaning body hfree hinner
  | group kind body =>
      obtain ⟨-, hbody⟩ := Bool.and_eq_true_iff.mp hfree
      obtain ⟨inner, after, hinner, rfl, -⟩ := exists_of_meaning_group h
      rw [Core.lookFree_grouped]
      exact lookFree_of_meaning body hbody hinner
  | concat parts =>
      obtain ⟨cores, hcores, rfl⟩ := exists_of_meaning_concat h
      exact (Core.Made.sequence cores).lookFree (lookFree_of_meanings parts hfree hcores)
  | alternation branches =>
      obtain ⟨cores, hcores, rfl⟩ := exists_of_meaning_alternation h
      exact (Core.Made.choice cores).lookFree (lookFree_of_meanings branches hfree hcores)

theorem lookFree_of_meanings (trees : List Tree) {c c' : Context} {cores : List Core}
    (hfree : allSelfContained trees = true) (h : meanings trees c = some (cores, c')) :
    ∀ core ∈ cores, core.lookFree = true := by
  cases trees with
  | nil =>
      rw [meanings] at h
      obtain ⟨rfl, -⟩ := Prod.mk.inj (Option.some.inj h)
      simp
  | cons tree rest =>
      obtain ⟨core, others, mid, hcore, hothers, rfl⟩ := exists_of_meanings_cons h
      obtain ⟨htree, hrest⟩ := Bool.and_eq_true_iff.mp hfree
      exact List.forall_mem_cons.mpr
        ⟨lookFree_of_meaning tree htree hcore, lookFree_of_meanings rest hrest hothers⟩

end

/-- In its place a tree matches what it matches alone, on its own. -/
theorem matches_in_place {tree : Tree} (hfree : tree.selfContained = true) {c c' d d' : Context}
    {core core' : Core} (hmode : d.mode = c.mode) (h : tree.meaning c = some (core, c'))
    (h' : tree.meaning d = some (core', d')) {before text behind : List Char} :
    core'.Matches before text behind ↔ core.Matches [] text [] := by
  obtain ⟨same, after, hmeaning, hsame⟩ := exists_meaning tree hmode h
  obtain ⟨rfl, -⟩ := Prod.mk.inj (Option.some.inj (hmeaning.symm.trans h'))
  constructor
  · intro hmatches
    exact (hmatches.of_unnumbered_eq hsame.unnumbered).elsewhere (lookFree_of_meaning tree hfree h)
      _ _
  · intro hmatches
    exact (hmatches.of_unnumbered_eq hsame.unnumbered.symm).elsewhere
      (lookFree_of_meaning tree hfree h') _ _

end Tree

end Trialbook.Pattern

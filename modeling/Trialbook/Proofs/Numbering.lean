import Trialbook.Proofs.Enclosed
import Trialbook.Proofs.Makeup

/-!
# How groups are numbered

The groups of a tree are numbered in the order in which they open, and a
repetition that is spelled out numbers its groups only once. So the numbers of
the groups in a tree lie between the next number before it and the next one
behind it, whatever becomes of its groups.

The meaning of a tree is taken apart once for each kind of tree
(`Tree.exists_of_meaning_group` and its siblings).
-/

namespace Trialbook.Pattern

open Reader (flagsOf)

/-! ## Meanings taken apart -/

/-- The context inside of a group. -/
def Context.inside (c : Context) : GroupKind → Context
  | .plain changes => { c with mode := c.mode.changes changes }
  | .numbered => { c with nextGroup := c.nextGroup + 1 }
  | .named name =>
    { c with nextGroup := c.nextGroup + 1, names := (name, c.nextGroup) :: c.names }

theorem Context.mode_inside (c : Context) (kind : GroupKind) :
    (c.inside kind).mode = c.mode.changes (flagsOf kind) := by
  cases kind <;> rfl

/-- A pattern in parentheses. -/
def Core.grouped (core : Core) (index : Nat) : GroupKind → Core
  | .plain _ => core
  | .numbered | .named _ => .group index core

namespace Tree

variable [Dialect] {c c' : Context} {core : Core}

theorem exists_of_meaning_repetition {least : Nat} {most : Option Nat} {greedy : Bool} {body : Tree}
    (h : (repetition least most greedy body).meaning c = some (core, c')) :
    ∃ inner, body.meaning c = some (inner, c') ∧
      core = inner.repetition least most (greedy != c'.mode.swapGreed) := by
  rw [meaning] at h
  obtain ⟨⟨inner, after⟩, hinner, h⟩ := Option.bind_eq_some_iff.mp h
  obtain ⟨rfl, rfl⟩ := Prod.mk.inj (Option.some.inj h)
  exact ⟨inner, hinner, rfl⟩

theorem meaning_group (kind : GroupKind) (body : Tree) (c : Context) :
    (group kind body).meaning c = (body.meaning (c.inside kind)).map fun p =>
      (p.1.grouped c.nextGroup kind, { p.2 with mode := c.mode }) := by
  cases kind with
  | plain | numbered | named =>
      rw [meaning]
      exact Option.map_eq_bind.symm

theorem exists_of_meaning_group {kind : GroupKind} {body : Tree}
    (h : (group kind body).meaning c = some (core, c')) :
    ∃ inner after, body.meaning (c.inside kind) = some (inner, after) ∧
      core = inner.grouped c.nextGroup kind ∧ c' = { after with mode := c.mode } := by
  rw [meaning_group] at h
  obtain ⟨⟨inner, after⟩, hinner, h⟩ := Option.map_eq_some_iff.mp h
  obtain ⟨rfl, rfl⟩ := Prod.mk.inj h
  exact ⟨inner, after, hinner, rfl, rfl⟩

theorem exists_of_meaning_concat {parts : List Tree}
    (h : (concat parts).meaning c = some (core, c')) :
    ∃ cores, meanings parts c = some (cores, c') ∧ core = .sequence cores := by
  rw [meaning] at h
  obtain ⟨⟨cores, after⟩, hcores, h⟩ := Option.bind_eq_some_iff.mp h
  obtain ⟨rfl, rfl⟩ := Prod.mk.inj (Option.some.inj h)
  exact ⟨cores, hcores, rfl⟩

theorem exists_of_meaning_alternation {branches : List Tree}
    (h : (alternation branches).meaning c = some (core, c')) :
    ∃ cores, meanings branches c = some (cores, c') ∧ core = .choice cores := by
  rw [meaning] at h
  obtain ⟨⟨cores, after⟩, hcores, h⟩ := Option.bind_eq_some_iff.mp h
  obtain ⟨rfl, rfl⟩ := Prod.mk.inj (Option.some.inj h)
  exact ⟨cores, hcores, rfl⟩

theorem exists_of_meanings_cons {tree : Tree} {rest : List Tree} {cores : List Core}
    (h : meanings (tree :: rest) c = some (cores, c')) :
    ∃ core others mid, tree.meaning c = some (core, mid) ∧
      meanings rest mid = some (others, c') ∧ cores = core :: others := by
  rw [meanings] at h
  obtain ⟨⟨core, mid⟩, hcore, h⟩ := Option.bind_eq_some_iff.mp h
  obtain ⟨⟨others, after⟩, hothers, h⟩ := Option.bind_eq_some_iff.mp h
  obtain ⟨rfl, rfl⟩ := Prod.mk.inj (Option.some.inj h)
  exact ⟨core, others, mid, hcore, hothers, rfl⟩

theorem ne_nil_of_meanings {trees : List Tree} (hne : trees ≠ []) {cores : List Core}
    (h : meanings trees c = some (cores, c')) : cores ≠ [] := by
  obtain ⟨tree, rest, rfl⟩ := List.exists_cons_of_ne_nil hne
  obtain ⟨core, others, mid, -, -, rfl⟩ := exists_of_meanings_cons h
  exact List.cons_ne_nil core others

end Tree

/-! ## Numbers and names -/

/-- From one context to the next, numbers in between are given to these groups
and these names come to be known. -/
structure Context.Numbers (c c' : Context) (groups : List Nat) (names : List String) : Prop where
  next : c.nextGroup ≤ c'.nextGroup
  groups : ∀ i ∈ groups, c.nextGroup ≤ i ∧ i < c'.nextGroup
  names : ∃ own, c'.names = own ++ c.names ∧ ∀ entry ∈ own, entry.1 ∈ names

namespace Context.Numbers

variable {c c' c'' : Context} {groups groups' : List Nat} {names names' : List String}

theorem refl (c : Context) (mode : Mode) : Context.Numbers c { c with mode } [] [] :=
  ⟨Nat.le_refl _, by simp, [], rfl, by simp⟩

theorem trans (h : Context.Numbers c c' groups names) (h' : Context.Numbers c' c'' groups' names') :
    Context.Numbers c c'' (groups ++ groups') (names ++ names') := by
  obtain ⟨own, hown, hnames⟩ := h.names
  obtain ⟨own', hown', hnames'⟩ := h'.names
  refine ⟨Nat.le_trans h.next h'.next, fun i hi => ?_, own' ++ own, ?_, fun entry hentry => ?_⟩
  · rcases List.mem_append.mp hi with hi | hi
    · have := h.groups i hi
      have := h'.next
      omega
    · have := h'.groups i hi
      have := h.next
      omega
  · rw [hown', hown, List.append_assoc]
  · rcases List.mem_append.mp hentry with hentry | hentry
    · exact List.mem_append_right _ (hnames' entry hentry)
    · exact List.mem_append_left _ (hnames entry hentry)

theorem mono (h : Context.Numbers c c' groups names) (hgroups : ∀ i ∈ groups', i ∈ groups)
    (hnames : ∀ name ∈ names, name ∈ names') : Context.Numbers c c' groups' names' := by
  obtain ⟨own, hown, hown'⟩ := h.names
  exact ⟨h.next, fun i hi => h.groups i (hgroups i hi), own, hown, fun entry hentry =>
    hnames _ (hown' entry hentry)⟩

/-- The number of a group is the next one, and its name comes first. -/
theorem grouped {kind : GroupKind} {core : Core} {body : Tree}
    (h : (c.inside kind).Numbers c' core.groups body.names) (mode : Mode) :
    c.Numbers { c' with mode } (core.grouped c.nextGroup kind).groups
      (Tree.group kind body).names := by
  cases kind with
  | plain => exact ⟨h.next, h.groups, h.names⟩
  | numbered =>
      refine ⟨Nat.le_of_succ_le h.next, fun i hi => ?_, h.names⟩
      rcases List.mem_cons.mp hi with rfl | hi
      · exact ⟨Nat.le_refl _, h.next⟩
      · exact ⟨Nat.le_of_succ_le (h.groups i hi).1, (h.groups i hi).2⟩
  | named name =>
      obtain ⟨own, hown, hnames⟩ := h.names
      refine ⟨Nat.le_of_succ_le h.next, fun i hi => ?_, own ++ [(name, c.nextGroup)], ?_,
        fun entry hentry => ?_⟩
      · rcases List.mem_cons.mp hi with rfl | hi
        · exact ⟨Nat.le_refl _, h.next⟩
        · exact ⟨Nat.le_of_succ_le (h.groups i hi).1, (h.groups i hi).2⟩
      · show c'.names = _
        rw [hown, List.append_assoc]
        rfl
      · rw [Tree.names]
        rcases List.mem_append.mp hentry with hentry | hentry
        · exact List.mem_cons_of_mem _ (hnames entry hentry)
        · rw [List.mem_singleton.mp hentry]
          exact List.mem_cons_self

end Context.Numbers

namespace Tree

variable [Dialect]

mutual

theorem numbers_of_meaning (tree : Tree) {c c' : Context} {core : Core}
    (h : tree.meaning c = some (core, c')) : c.Numbers c' core.groups tree.names := by
  cases tree with
  | empty | flags | position =>
      rw [meaning] at h
      obtain ⟨rfl, rfl⟩ := Prod.mk.inj (Option.some.inj h)
      exact .refl c _
  | literal | dot | cls =>
      rw [meaning] at h
      obtain ⟨points, -, h⟩ := Option.bind_eq_some_iff.mp h
      obtain ⟨rfl, rfl⟩ := Prod.mk.inj (Option.some.inj h)
      exact .refl c c.mode
  | repetition least most greedy body =>
      -- the copies of the body share its groups, so no number is new in a copy
      obtain ⟨inner, hinner, rfl⟩ := exists_of_meaning_repetition h
      rw [names]
      refine (numbers_of_meaning body hinner).mono (fun i hi => ?_) fun _ => id
      simpa using (Core.Made.repetition least most _ inner).mem_groups hi
  | group kind body =>
      obtain ⟨inner, after, hinner, rfl, rfl⟩ := exists_of_meaning_group h
      exact (numbers_of_meaning body hinner).grouped c.mode
  | concat parts =>
      obtain ⟨cores, hcores, rfl⟩ := exists_of_meaning_concat h
      rw [names]
      exact (numbers_of_meanings parts hcores).mono
        (fun _ => (Core.Made.sequence cores).mem_groups) fun _ => id
  | alternation branches =>
      obtain ⟨cores, hcores, rfl⟩ := exists_of_meaning_alternation h
      rw [names]
      exact (numbers_of_meanings branches hcores).mono
        (fun _ => (Core.Made.choice cores).mem_groups) fun _ => id

theorem numbers_of_meanings (trees : List Tree) {c c' : Context} {cores : List Core}
    (h : meanings trees c = some (cores, c')) :
    c.Numbers c' (cores.flatMap Core.groups) (allNames trees) := by
  cases trees with
  | nil =>
      rw [meanings] at h
      obtain ⟨rfl, rfl⟩ := Prod.mk.inj (Option.some.inj h)
      exact .refl c c.mode
  | cons tree rest =>
      obtain ⟨core, others, mid, hcore, hothers, rfl⟩ := exists_of_meanings_cons h
      rw [List.flatMap_cons, allNames]
      exact (numbers_of_meaning tree hcore).trans (numbers_of_meanings rest hothers)

end

end Tree

end Trialbook.Pattern

import Trialbook.Proofs.Pass
import Mathlib.Data.List.Forall2

/-!
# The fate of each leaf

A pass does one of three things to a leaf. It keeps the leaf where it stands if no rule
matches the path. Otherwise the first rule of the table that matches decides, whatever
the rules behind it say: the leaf goes to each of the rule's destinations, or is dropped
if there are none. `RuleSet.Treats` says which of the three it is without following the
search, and a whole pass is the fates of its leaves put together in their order
(`Migration.pass_fates`).

A fate holds what a strict pass would report. Whether the pass is strict comes in only at
the end, where a lenient one leaves the missed paths out.
-/

namespace Trialbook

/-- What a pass makes of one leaf: the writes of its value, and its path where there is
something to report about it. -/
structure Fate where
  writes : List Write
  missed : List String
  dropped : List String

/-- A write is what a destination makes of a leaf: its path is filled with what the rule
captured, the value is the leaf's, and it joins a sequence if the destination says so. -/
structure Leaf.Delivered (leaf : Leaf) (captures : Captures) (destination : Rule.Template)
    (w : Write) : Prop where
  path : w.path = destination.render captures.named?
  value : w.value = leaf.value
  append : w.append = destination.append

namespace RuleSet

variable {rules : RuleSet}

/-- The rule is the first one in the table to match the path. -/
def IsFirst (rules : RuleSet) (path : String) (rule : Rule) (captures : Captures) : Prop :=
  ∃ before after, rules = before ++ rule :: after ∧
    (∀ other ∈ before, other.pattern.search? path = none) ∧
    rule.pattern.search? path = some captures

/-- What the rules make of a leaf. -/
inductive Treats (rules : RuleSet) (leaf : Leaf) : Fate → Prop
  | kept (h : ∀ rule ∈ rules, rule.pattern.search? leaf.path = none) :
      Treats rules leaf ⟨[⟨leaf.path, leaf.value, false⟩], [leaf.path], []⟩
  | moved {rule : Rule} {captures : Captures} {writes : List Write}
      (h : rules.IsFirst leaf.path rule captures) (hsome : rule.destinations ≠ [])
      (hwrites : List.Forall₂ (leaf.Delivered captures) rule.destinations writes) :
      Treats rules leaf ⟨writes, [], []⟩
  | dropped {rule : Rule} {captures : Captures}
      (h : rules.IsFirst leaf.path rule captures) (hnone : rule.destinations = []) :
      Treats rules leaf ⟨[], [], [leaf.path]⟩

theorem find?_eq_none_iff {path : String} :
    rules.find? path = none ↔ ∀ rule ∈ rules, rule.pattern.search? path = none := by
  induction rules with
  | nil => simp [find?]
  | cons rule rest ih =>
      rw [find?, List.forall_mem_cons, ← ih]
      cases rule.pattern.search? path <;> simp

theorem isFirst_of_find? {path : String} {rule : Rule} {captures : Captures}
    (h : rules.find? path = some (rule, captures)) : rules.IsFirst path rule captures := by
  induction rules with
  | nil => simp [find?] at h
  | cons first rest ih =>
      rw [find?] at h
      cases hsearch : first.pattern.search? path with
      | some found =>
          rw [hsearch] at h
          obtain ⟨rfl, rfl⟩ := Prod.mk.inj (Option.some.inj h)
          exact ⟨[], rest, rfl, by simp, hsearch⟩
      | none =>
          rw [hsearch] at h
          obtain ⟨before, after, rfl, hbefore, hrule⟩ := ih h
          exact ⟨first :: before, after, rfl, List.forall_mem_cons.mpr ⟨hsearch, hbefore⟩, hrule⟩

/-- The fate that a leaf has in a pass. -/
def fateOf (rules : RuleSet) (leaf : Leaf) : Fate where
  writes := rules.writesOf leaf
  missed := if rules.misses leaf.path then [leaf.path] else []
  dropped := if rules.drops leaf.path then [leaf.path] else []

theorem treats_fateOf (rules : RuleSet) (leaf : Leaf) : rules.Treats leaf (rules.fateOf leaf) := by
  rw [fateOf, writesOf, misses, drops]
  cases hfind : rules.find? leaf.path with
  | none => exact .kept (find?_eq_none_iff.mp hfind)
  | some found =>
      obtain ⟨rule, captures⟩ := found
      have hfirst := isFirst_of_find? hfind
      by_cases hnone : rule.destinations = []
      · simpa [hnone] using Treats.dropped hfirst hnone
      · have hwrites : List.Forall₂ (leaf.Delivered captures) rule.destinations
            (rule.destinations.map fun d => ⟨d.render captures.named?, leaf.value, d.append⟩) := by
          rw [List.forall₂_map_right_iff, List.forall₂_same]
          exact fun d _ => ⟨rfl, rfl, rfl⟩
        simpa [hnone] using Treats.moved hfirst hnone hwrites

end RuleSet

namespace Migration

/-- The leaves that pass a test, in order, are found leaf by leaf. -/
theorem filter_paths (test : String → Bool) (flat : FlatView) :
    (flat.map Leaf.path).filter test =
      flat.flatMap fun leaf => if test leaf.path then [leaf.path] else [] := by
  induction flat with
  | nil => rfl
  | cons leaf rest ih => cases h : test leaf.path <;> simp [h, ih]

/-- Every leaf has its fate, whether the pass is strict or not. The writes are those of
the leaves in their order. The report keeps what it began with, and behind that come the
dropped paths in order and, if the pass is strict, the missed ones. -/
theorem pass_fates (rules : RuleSet) (flat : FlatView) :
    ∃ fates : List Fate, List.Forall₂ rules.Treats flat fates ∧
      ∀ strictness report, pass rules strictness flat report =
        (fates.flatMap Fate.writes,
          { misses := report.misses ++
              if strictness = .strict then fates.flatMap Fate.missed else []
            dropped := report.dropped ++ fates.flatMap Fate.dropped
            collisions := report.collisions }) := by
  refine ⟨flat.map rules.fateOf, ?_, fun strictness report => ?_⟩
  · rw [List.forall₂_map_right_iff, List.forall₂_same]
    exact fun leaf _ => rules.treats_fateOf leaf
  · rw [pass_eq, filter_paths]
    cases strictness with
    | lenient => simp only [missed, List.flatMap_map]; rfl
    | strict => simp only [missed, filter_paths, List.flatMap_map]; rfl

end Migration

end Trialbook

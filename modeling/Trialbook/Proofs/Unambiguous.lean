import Trialbook.Proofs.Acceptance
import Trialbook.Proofs.Bundled
import Mathlib.Data.List.Forall2

/-!
# Rules whose order does not matter

Of several rules that match a path the first one counts, so in general a table is
a list and no set. Where no path is matched by two rules of one pass, the rule
that is found is the only one there is, and the rules may be listed in any order.

For rules made of segments this takes no regular expression: a path that two of
them match has the shapes of both, and such shapes meet. No two shapes of the
bundled rules do (`apart_sources_modifierMoves`, `apart_sources_terminalMoves`).
-/

namespace Trialbook

namespace RuleSet

/-- The rules that match a path, in order, with what they capture. -/
def hits (rules : RuleSet) (path : String) : List (Rule × Captures) :=
  rules.filterMap fun rule => (rule.pattern.search? path).map (rule, ·)

theorem hits_cons (rule : Rule) (rules : RuleSet) (path : String) :
    hits (rule :: rules) path =
      ((rule.pattern.search? path).map (rule, ·)).toList ++ hits rules path := by
  rw [hits, List.filterMap_cons]
  cases rule.pattern.search? path <;> rfl

theorem find?_eq_head?_hits (rules : RuleSet) (path : String) :
    rules.find? path = (rules.hits path).head? := by
  induction rules with
  | nil => rfl
  | cons rule rules ih =>
      rw [find?, hits_cons]
      cases rule.pattern.search? path with
      | none => exact ih
      | some captures => rfl

/-- No path is matched by two rules. -/
def Unambiguous (rules : RuleSet) : Prop :=
  ∀ path, (rules.hits path).length ≤ 1

theorem find?_of_perm {rules rules' : RuleSet} (hunambiguous : rules.Unambiguous)
    (h : rules'.Perm rules) : rules'.find? = rules.find? := by
  funext path
  have hperm : (rules'.hits path).Perm (rules.hits path) := h.filterMap _
  rw [find?_eq_head?_hits, find?_eq_head?_hits]
  cases hhits : rules.hits path with
  | nil => rw [hhits] at hperm; rw [hperm.eq_nil]
  | cons hit others =>
      have hone := hunambiguous path
      rw [hhits, List.length_cons] at hone
      obtain rfl : others = [] := List.eq_nil_of_length_eq_zero (by omega)
      rw [hhits] at hperm
      rw [List.perm_singleton.mp hperm]

end RuleSet

namespace Migration

/-- A migration asks its rules only which of them is for a path. -/
theorem convert_congr {rules rules' : RuleTable}
    (hmodifiers : rules'.modifiers.find? = rules.modifiers.find?)
    (hterminal : rules'.terminal.find? = rules.terminal.find?) (document : Node)
    (kind : DocumentKind) (policy : CollisionPolicy) :
    convert document kind rules' policy = convert document kind rules policy := by
  have hpass : ∀ {set set' : RuleSet}, set'.find? = set.find? →
      pass set' = pass set := by
    intro set set' h
    funext strictness flat report
    induction flat generalizing report with
    | nil => rfl
    | cons leaf flat ih => simp only [pass, moveLeaf, h, ih]
  simp only [convert, hpass hmodifiers, hpass hterminal]

end Migration

/-! ## Rules made of segments -/

namespace Rule

variable {fragment : String → Fragment} (hdotless : ∀ name, (fragment name).isDotless = true)

include hdotless

/-- Rules with the shapes of one path meet. -/
theorem Move.meets_of_search? {m m' : Move} (hm : m.IsSound) (hm' : m'.IsSound) {path : String}
    (h : ((m.rule fragment).pattern.search? path).isSome = true)
    (h' : ((m'.rule fragment).pattern.search? path).isSome = true) :
    (Shape.ofText m.source).meets fragment (Shape.ofText m'.source) = true := by
  obtain ⟨captures, hsearch⟩ := Option.isSome_iff_exists.mp h
  obtain ⟨captures', hsearch'⟩ := Option.isSome_iff_exists.mp h'
  exact (fits_source hdotless hm hsearch).1.meets (fits_source hdotless hm' hsearch').1

theorem Move.unambiguous_rules {moves : List Move} (hsound : ∀ m ∈ moves, m.IsSound)
    (hapart : moves.Pairwise fun m m' =>
      (Shape.ofText m.source).meets fragment (Shape.ofText m'.source) = false) :
    (Move.rules fragment moves).Unambiguous := by
  intro path
  induction moves with
  | nil => exact Nat.zero_le 1
  | cons m moves ih =>
      obtain ⟨hfirst, hrest⟩ := List.pairwise_cons.mp hapart
      have hm := hsound m List.mem_cons_self
      have hmoves : ∀ m' ∈ moves, m'.IsSound := fun m' h => hsound m' (List.mem_cons_of_mem _ h)
      rw [Move.rules, List.map_cons, RuleSet.hits_cons]
      cases hsearch : (m.rule fragment).pattern.search? path with
      | none => exact ih hmoves hrest
      | some captures =>
          -- no other rule matches, for it would meet this one
          have hothers : RuleSet.hits (moves.map (Move.rule fragment)) path = [] := by
            refine List.filterMap_eq_nil_iff.mpr fun rule hrule => ?_
            obtain ⟨m', hm', rfl⟩ := List.mem_map.mp hrule
            rw [Option.map_eq_none_iff]
            by_contra hfound
            have hmeets := Move.meets_of_search? hdotless hm (hmoves m' hm')
              (by rw [hsearch]; rfl) (Option.isSome_iff_ne_none.mpr hfound)
            rw [hfirst m' hm'] at hmeets
            exact Bool.false_ne_true hmeets
          rw [hothers]
          exact Nat.le_refl 1

end Rule

/-! ## Entries in another order -/

namespace Rule

open Text (Dictionary)

/-- Entries in another order make the same rules in that order. -/
theorem exists_compileAll_perm [Pattern.Dialect] {tokens : Dictionary} {entries entries' : Entries}
    {rules : RuleSet} (hcompile : compileAll tokens entries = .ok rules)
    (h : entries'.Perm entries) :
    ∃ rules', compileAll tokens entries' = .ok rules' ∧ rules'.Perm rules := by
  have hknown : ∀ name, tokens.get? name =
      if tokens.contains name then some (textIn tokens name) else none := by
    intro name
    rw [Dictionary.contains, textIn]
    cases tokens.get? name <;> rfl
  obtain ⟨hkeys, hrules⟩ := (compileAll_eq_ok_iff hknown).mp hcompile
  obtain ⟨rules', hrules', hperm⟩ := List.perm_comp_forall₂ (h.filter isRule) hrules
  exact ⟨rules', (compileAll_eq_ok_iff hknown).mpr
    ⟨fun e he => hkeys e (h.mem_iff.mp he), hrules'⟩, hperm⟩

end Rule

/-! ## The bundled table -/

namespace Rule.Bundled

/-- The entries of the bundled table, with those of each pass as given. -/
def entriesWith (modifiers terminal : Entries) : Entries :=
  [(.text "__version", .number (.int 1)), (.text tokensKey, .mapping tokens),
    (.text modifiersKey, .mapping modifiers)] ++ terminal

theorem apart_sources_modifierMoves : modifierMoves.Pairwise fun m m' =>
    (Shape.ofText m.source).meets fragment (Shape.ofText m'.source) = false := by decide +kernel

theorem apart_sources_terminalMoves : terminalMoves.Pairwise fun m m' =>
    (Shape.ofText m.source).meets fragment (Shape.ofText m'.source) = false := by decide +kernel

theorem unambiguous_modifiers : rules.modifiers.Unambiguous :=
  Move.unambiguous_rules isDotless_fragment isSound_modifierMoves apart_sources_modifierMoves

theorem unambiguous_terminal : rules.terminal.Unambiguous :=
  Move.unambiguous_rules isDotless_fragment isSound_terminalMoves apart_sources_terminalMoves

/-- The table in another order is read, as the same rules in that order. -/
theorem exists_ofNode_perm {modifiers' terminal' : Entries} (hmodifiers : modifiers'.Perm modifiers)
    (hterminal : terminal'.Perm terminal) :
    ∃ rules', RuleTable.ofNode (.mapping (entriesWith modifiers' terminal')) = .ok rules' ∧
      rules'.modifiers.Perm rules.modifiers ∧ rules'.terminal.Perm rules.terminal := by
  have hbundled : RuleTable.ofEntries (entriesWith modifiers terminal) = .ok rules :=
    RuleTable.bundled_eq
  obtain ⟨declared, pairs, known, found, hdeclared, hpairs, hknown, hfound, hfirst, hsecond⟩ :=
    RuleTable.ofEntries_eq_ok_iff.mp hbundled
  obtain rfl : declared = tokens := hdeclared.unique (.mapping rfl)
  obtain rfl : found = modifiers := hfound.unique (.mapping rfl)
  obtain ⟨first, hfirst', hfirstPerm⟩ := exists_compileAll_perm hfirst hmodifiers
  obtain ⟨second, hsecond', hsecondPerm⟩ :=
    exists_compileAll_perm hsecond (hterminal.append_left _)
  exact ⟨⟨first, second⟩, RuleTable.ofEntries_eq_ok_iff.mpr ⟨tokens, pairs, known, modifiers',
    .mapping rfl, hpairs, hknown, .mapping rfl, hfirst', hsecond'⟩, hfirstPerm, hsecondPerm⟩

end Rule.Bundled

namespace Migration

/-- No path is matched by two bundled rules of one pass, so that a migration comes
to the same with the rules of each pass in any order, be it the compiled rules or the
entries of the table that are put in that order. -/
theorem bundled_convert_of_perm :
    ∃ rules, RuleTable.bundled = .ok rules ∧
      (∀ path, (rules.modifiers.hits path).length ≤ 1 ∧ (rules.terminal.hits path).length ≤ 1) ∧
      (∀ modifiers terminal, modifiers.Perm rules.modifiers → terminal.Perm rules.terminal →
        ∀ document kind policy, convert document kind ⟨modifiers, terminal⟩ policy =
          convert document kind rules policy) ∧
      ∀ modifiers terminal, modifiers.Perm Rule.Bundled.modifiers →
        terminal.Perm Rule.Bundled.terminal →
        ∃ rules', RuleTable.ofNode (.mapping (Rule.Bundled.entriesWith modifiers terminal)) =
            .ok rules' ∧
          ∀ document kind policy, convert document kind rules' policy =
            convert document kind rules policy := by
  have hany : ∀ rules' : RuleTable, rules'.modifiers.Perm Rule.Bundled.rules.modifiers →
      rules'.terminal.Perm Rule.Bundled.rules.terminal → ∀ document kind policy,
      convert document kind rules' policy = convert document kind Rule.Bundled.rules policy :=
    fun rules' hmodifiers hterminal => convert_congr
      (RuleSet.find?_of_perm Rule.Bundled.unambiguous_modifiers hmodifiers)
      (RuleSet.find?_of_perm Rule.Bundled.unambiguous_terminal hterminal)
  refine ⟨_, RuleTable.bundled_eq, fun path => ⟨Rule.Bundled.unambiguous_modifiers path,
    Rule.Bundled.unambiguous_terminal path⟩, fun modifiers terminal => hany ⟨modifiers, terminal⟩,
    fun modifiers terminal hmodifiers hterminal => ?_⟩
  obtain ⟨rules', hrules', hfirst, hsecond⟩ :=
    Rule.Bundled.exists_ofNode_perm hmodifiers hterminal
  exact ⟨rules', hrules', hany rules' hfirst hsecond⟩

/-- The table from its last rule to its first, at a document of the old layout. -/
theorem bundled_convert_of_perm_reverse :
    ∃ rules rules', RuleTable.bundled = .ok rules ∧
      Rule.Bundled.modifiers.reverse.Perm Rule.Bundled.modifiers ∧
      Rule.Bundled.terminal.reverse.Perm Rule.Bundled.terminal ∧
      RuleTable.ofNode (.mapping (Rule.Bundled.entriesWith Rule.Bundled.modifiers.reverse
        Rule.Bundled.terminal.reverse)) = .ok rules' ∧
      rules.modifiers.reverse.Perm rules.modifiers ∧ rules.terminal.Perm rules.terminal ∧
      convert (.mapping [(.text "te", .mapping [(.text "a", .mapping [(.text "build",
          .mapping [(.text "files", .text "x")])])])]) .te rules' .error =
        convert (.mapping [(.text "te", .mapping [(.text "a", .mapping [(.text "build",
          .mapping [(.text "files", .text "x")])])])]) .te
          ⟨rules.modifiers.reverse, rules.terminal⟩ .error := by
  obtain ⟨rules, hrules, -, hcompiled, hentries⟩ := bundled_convert_of_perm
  obtain ⟨rules', hrules', hconvert⟩ := hentries _ _ (List.reverse_perm _) (List.reverse_perm _)
  refine ⟨rules, rules', hrules, List.reverse_perm _, List.reverse_perm _, hrules',
    List.reverse_perm _, .refl _, ?_⟩
  rw [hconvert, hcompiled _ _ (List.reverse_perm _) (.refl _)]

end Migration

end Trialbook

import Trialbook.Pattern.Standard
import Trialbook.Proofs.Current
import Trialbook.Proofs.Reading
import Trialbook.Rule.Bundled

/-!
# The bundled rules, segment by segment

All bundled rules are made of segments, so each is a `Move` and its pattern is
spelled out of a few fragments. That the compiled table is the one made of
these moves is evaluated, for the tokens and for each of the passes. Everything
after it is about shapes, where it takes no regular expression to see that no
rule of the first pass matches what another one writes.
-/

namespace Trialbook

open Node Rule

namespace Rule

variable {fragment : String → Fragment} {moves : List Move} {path : String}

/-- The rules of some moves. -/
def Move.rules (fragment : String → Fragment) (moves : List Move) : RuleSet :=
  moves.map (Move.rule fragment)

theorem Move.exists_of_find? {rule : Rule} {captures : Captures}
    (h : (Move.rules fragment moves).find? path = some (rule, captures)) :
    ∃ m ∈ moves, rule = m.rule fragment ∧
      (m.rule fragment).pattern.search? path = some captures := by
  obtain ⟨hmem, hsearch⟩ := RuleSet.mem_of_find? h
  obtain ⟨m, hm, rfl⟩ := List.mem_map.mp hmem
  exact ⟨m, hm, rfl, hsearch⟩

/-- A leaf stays because no rule matches it, or goes where the destinations of
a move send it. -/
theorem Move.mem_writesOf {leaf : Leaf} {w : Write}
    (h : w ∈ (Move.rules fragment moves).writesOf leaf) :
    ((Move.rules fragment moves).misses leaf.path = true ∧ w = leaf.toWrite) ∨
      ∃ m ∈ moves, ∃ captures, (m.rule fragment).pattern.search? leaf.path = some captures ∧
        ∃ target ∈ m.targets, w.path =
          Template.render ⟨target.1, (Shape.ofText target.2).pieces⟩ captures.named? := by
  rw [RuleSet.writesOf] at h
  split at h
  · next hnone =>
      refine Or.inl ⟨?_, List.mem_singleton.mp h⟩
      rw [RuleSet.misses, hnone]
      rfl
  · next rule captures hfound =>
      obtain ⟨m, hm, rfl, hsearch⟩ := Move.exists_of_find? hfound
      obtain ⟨template, htemplate, rfl⟩ := List.mem_map.mp h
      obtain ⟨target, htarget, rfl⟩ := List.mem_map.mp htemplate
      exact Or.inr ⟨m, hm, captures, hsearch, target, htarget, rfl⟩

/-- Rules whose one destination is what they match keep every leaf. -/
theorem Move.writesOf_of_kept (hsound : ∀ m ∈ moves, m.IsSound)
    (hkept : ∀ m ∈ moves, m.targets = [(false, m.source)]) (leaf : Leaf) :
    (Move.rules fragment moves).writesOf leaf = [leaf.toWrite] := by
  rw [RuleSet.writesOf]
  split
  · rfl
  · next rule captures hfound =>
      obtain ⟨m, hm, rfl, hsearch⟩ := Move.exists_of_find? hfound
      have hrender := (render_of_search? (fun name => (fragment name).groups_core)
        (Move.distinct (hsound m hm)) hsearch false).1
      have hdestinations : (m.rule fragment).destinations =
          [⟨false, (Shape.ofText m.source).pieces⟩] := by
        rw [Move.rule, hkept m hm]
        rfl
      rw [hdestinations, List.map_singleton, hrender]
      rfl

section

variable (hdotless : ∀ name, (fragment name).isDotless = true) (hsound : ∀ m ∈ moves, m.IsSound)

include hdotless hsound

/-- A move that stays apart from the sources of all moves writes where none of
them matches. -/
theorem Move.misses_of_mem_writesOf
    (hapart : ∀ m ∈ moves, ∀ target ∈ m.targets, ∀ m' ∈ moves,
      (Shape.ofText target.2).meets fragment (Shape.ofText m'.source) = false)
    {leaf : Leaf} {w : Write} (h : w ∈ (Move.rules fragment moves).writesOf leaf) :
    (Move.rules fragment moves).misses w.path = true := by
  rcases Move.mem_writesOf h with ⟨hmisses, rfl⟩ | ⟨m, hm, captures, hsearch, target, htarget, hw⟩
  · exact hmisses
  · rw [RuleSet.misses, Option.isNone_iff_eq_none]
    by_contra hfound
    obtain ⟨⟨rule, captures'⟩, hfound⟩ := Option.ne_none_iff_exists'.mp hfound
    obtain ⟨m', hm', rfl, hsearch'⟩ := Move.exists_of_find? hfound
    have hwritten := Move.fits_target hdotless (hsound m hm) hsearch htarget
    rw [← hw] at hwritten
    have hmeets := hwritten.meets (Move.fits_source hdotless (hsound m' hm') hsearch').1
    rw [hapart m hm target htarget m' hm'] at hmeets
    exact Bool.false_ne_true hmeets

theorem Move.head?_of_mem_writesOf {leaf : Leaf} {w : Write}
    (h : w ∈ (Move.rules fragment moves).writesOf leaf) :
    (Path.segments w.path).head? = (Path.segments leaf.path).head? := by
  rcases Move.mem_writesOf h with ⟨-, rfl⟩ | ⟨m, hm, captures, hsearch, target, htarget, hw⟩
  · rfl
  · rw [hw]
    exact Move.head?_segments_target hdotless (hsound m hm) hsearch htarget

end

end Rule

/-! ## The table -/

namespace Rule.Bundled

/-- The characters of some ranges. -/
def anyOf (ranges : List (Nat × Nat)) : Pattern.CharSet :=
  ranges.foldr (fun range others => .union (.ranges [range]) others) (.ranges [])

/-- What the tokens stand for. Names are runs of anything but dots. -/
def fragment (name : String) : Fragment :=
  match name with
  | "LANG" => .oneOf "cc" ["cxx", "fc", "f77", "f90", "f95", "f03", "f08"]
  | "VAR" => .run (anyOf [(65, 90), (97, 122), (95, 95)])
      (anyOf [(65, 90), (97, 122), (48, 57), (95, 95)])
  | "SHELL" => .oneOf "bash" ["sh", "zsh"]
  | "PM" => .oneOf "spack" ["module"]
  | "DEP" => .oneOf "test" ["spack", "module"]
  | "PHASE" => .oneOf "build" ["run"]
  | "FIELD" => .oneOf "files" ["variants", "cflags", "ldflags", "binary"]
  | "RUNKEY" => .oneOf "program" ["args"]
  | _ => .many (.compl (.ranges [(46, 46)]))

/-- An entry of the table as a move. -/
def moveOf (entry : Node × Node) : Move where
  source := entry.1.text?.getD ""
  targets :=
    match entry.2.text? with
    | none => []
    | some target =>
      match target.toList with
      | '+' :: rest => [(true, String.ofList rest)]
      | _ => [(false, target)]

/-- The moves of the first pass. -/
def modifierMoves : List Move := modifiers.map moveOf

/-- The moves of the second pass. -/
def terminalMoves : List Move := terminal.map moveOf

/-- The table that the moves make. -/
def rules : RuleTable := ⟨Move.rules fragment modifierMoves, Move.rules fragment terminalMoves⟩

/-- The fragments of the tokens, spelled out. -/
def fragments : Text.Dictionary := ⟨[
  ("DEP", "test|(?:spack|module)"),
  ("FIELD", "files|variants|cflags|ldflags|binary"),
  ("ITER", "[^.]+"),
  ("LANG", "cc|cxx|fc|f77|f90|f95|f03|f08"),
  ("NAME", "[^.]+"),
  ("PHASE", "build|run"),
  ("PM", "spack|module"),
  ("RUNKEY", "program|args"),
  ("SHELL", "bash|sh|zsh"),
  ("VAR", "[A-Za-z_][A-Za-z0-9_]*")]⟩

theorem tokens_resolve : (declarations {} tokens).toOption.bind (fun declared =>
    (resolveTokens declared).toOption) = some fragments := by decide +kernel

theorem modifiers_compile :
    (compileAll fragments modifiers).toOption = some rules.modifiers := by decide +kernel

theorem terminal_compile : (compileAll fragments
    ([(text "__version", .number (.int 1)), (text tokensKey, mapping tokens),
      (text modifiersKey, mapping modifiers)] ++ terminal)).toOption = some rules.terminal := by
  decide +kernel

theorem isDotless_fragment (name : String) : (fragment name).isDotless = true := by
  unfold fragment
  split <;> decide

theorem isSound_modifierMoves : ∀ m ∈ modifierMoves, m.IsSound := by decide +kernel

theorem isSound_terminalMoves : ∀ m ∈ terminalMoves, m.IsSound := by decide +kernel

theorem apart_modifierMoves : ∀ m ∈ modifierMoves, ∀ target ∈ m.targets, ∀ m' ∈ modifierMoves,
    (Shape.ofText target.2).meets fragment (Shape.ofText m'.source) = false := by decide +kernel

theorem targets_terminalMoves : ∀ m ∈ terminalMoves, m.targets = [(false, m.source)] := by
  decide +kernel

theorem isStable : rules.IsStable where
  missed _ _ := Move.misses_of_mem_writesOf isDotless_fragment isSound_modifierMoves
    apart_modifierMoves
  head _ _ := Move.head?_of_mem_writesOf isDotless_fragment isSound_modifierMoves
  kept := Move.writesOf_of_kept isSound_terminalMoves targets_terminalMoves

end Rule.Bundled

theorem RuleTable.bundled_eq : RuleTable.bundled = .ok Rule.Bundled.rules := by
  obtain ⟨declared, hdeclared, hresolve⟩ := Option.bind_eq_some_iff.mp Rule.Bundled.tokens_resolve
  refine bind_eq_ok.mpr ⟨Rule.Bundled.tokens, rfl, ?_⟩
  refine bind_eq_ok.mpr ⟨declared, mapError_eq_ok.mpr (eq_ok_of_toOption hdeclared), ?_⟩
  refine bind_eq_ok.mpr ⟨_, mapError_eq_ok.mpr (eq_ok_of_toOption hresolve), ?_⟩
  refine bind_eq_ok.mpr ⟨Rule.Bundled.modifiers, rfl, ?_⟩
  refine bind_eq_ok.mpr ⟨_, eq_ok_of_toOption Rule.Bundled.modifiers_compile, ?_⟩
  exact bind_eq_ok.mpr ⟨_, eq_ok_of_toOption Rule.Bundled.terminal_compile, rfl⟩

namespace Migration

/-- Migrating with the bundled rules once more changes nothing: what is left of
a document comes back as it is, with nothing dropped and no collision. -/
theorem bundled_convert_again :
    ∃ rules, RuleTable.bundled = .ok rules ∧
      ∀ document kind result report,
        convert document kind rules .overwrite = .ok (result, report) → result ≠ mapping [] →
        ∃ report', convert result kind rules .overwrite = .ok (result, report') ∧
          report'.dropped = [] ∧ report'.collisions = [] := by
  refine ⟨_, RuleTable.bundled_eq, fun document kind result report h hresult => ?_⟩
  have hstable := Rule.Bundled.isStable
  have hcurrent := isCurrent_of_convert hstable h hresult
  obtain ⟨misses, hagain⟩ := convert_of_isCurrent hstable hcurrent .overwrite
  exact ⟨_, hagain, rfl, rfl⟩

/-- An iterator of the old layout. -/
theorem bundled_convert_again_iterator :
    ∃ rules report report', RuleTable.bundled = .ok rules ∧
      convert (mapping [(text "runtime", mapping [(text "iterators",
          mapping [(text "n", mapping [(text "values", sequence [])])])])])
        .runtime rules .overwrite =
        .ok (mapping [(text "runtime", mapping [(text "iterate",
          mapping [(text "n", sequence [])])])], report) ∧
      convert (mapping [(text "runtime", mapping [(text "iterate",
          mapping [(text "n", sequence [])])])])
        .runtime rules .overwrite =
        .ok (mapping [(text "runtime", mapping [(text "iterate",
          mapping [(text "n", sequence [])])])], report') ∧
      report'.dropped = [] ∧ report'.collisions = [] := by
  obtain ⟨rules, hrules, hagain⟩ := bundled_convert_again
  obtain rfl : Rule.Bundled.rules = rules :=
    Except.ok.inj (RuleTable.bundled_eq.symm.trans hrules)
  have hplaces : Rule.Bundled.rules.modifiers.placesOf "runtime.iterators.n.values" =
      [("runtime.iterate.n", false)] := by decide +kernel
  have hwrites : Rule.Bundled.rules.modifiers.writesOf
      ⟨"runtime.iterators.n.values", sequence []⟩ =
        [⟨"runtime.iterate.n", sequence [], false⟩] := by
    rw [RuleSet.writesOf_eq, hplaces]
    rfl
  have hwellKeyed : (chain ["runtime", "iterate", "n"] (sequence [])).WellKeyed :=
    WellKeyed.chain (.leaf (by simp)) (by decide)
  have hmigrates : ∃ misses, convert (mapping [(text "runtime", mapping [(text "iterators",
      mapping [(text "n", mapping [(text "values", sequence [])])])])])
        .runtime Rule.Bundled.rules .overwrite =
      .ok (mapping [(text "runtime", mapping [(text "iterate",
        mapping [(text "n", sequence [])])])], { misses }) := by
    refine convert_of_writes Rule.Bundled.isStable hwellKeyed (by simp) ?_ ?_ .overwrite
    · show [Leaf.mk "runtime.iterators.n.values" (sequence [])].flatMap _ = _
      rw [List.flatMap_singleton, hwrites]
      rfl
    · show ∀ leaf ∈ [Leaf.mk "runtime.iterators.n.values" (sequence [])], _
      intro leaf hleaf
      rw [List.mem_singleton.mp hleaf, hwrites]
      simp
  obtain ⟨misses, hfirst⟩ := hmigrates
  obtain ⟨report', hsecond, hdropped, hcollisions⟩ := hagain _ _ _ _ hfirst (by simp)
  exact ⟨_, _, report', hrules, hfirst, hsecond, hdropped, hcollisions⟩

end Migration

end Trialbook

import Trialbook.Proofs.Acceptance
import Trialbook.Proofs.Exhaustive
import Trialbook.Proofs.Identity
import Trialbook.Proofs.InPlace
import Trialbook.Proofs.Matching
import Trialbook.Proofs.Placeholders

/-!
# The paths that a rule describes

A rule describes the paths that come of its text by putting words in place of the
placeholders, each a word that the token's fragment matches in full
(`Rule.Describes`). Its pattern finds a match in these paths and in no others, and
the match is the whole path (`RuleTable.search?_described`).

A fragment with anchors would see what stands around it, and one in verbose mode
could go on behind its own end. Of other fragments it makes no difference where
they stand. So the pattern reads as its pieces do, one after the other
(`Rule.InPlace`), a token that comes again included: its later groups have another
kind but the same inside.
-/

namespace Trialbook

open Pattern Pattern.Reader
open Text (Dictionary)

namespace Rule

/-- A word is matched from its start to its end by a fragment, with nothing around. -/
def MatchesInFull [Dialect] (fragment : String) (word : List Char) : Prop :=
  ∃ pattern, Pattern.ofChars? fragment.toList = some pattern ∧ pattern.core.Matches [] word []

/-- A path is what the pieces of a rule are, one after the other: each character
itself, and for each placeholder a word that the fragment of its token matches in
full. -/
inductive Describes [Dialect] (tokens : Dictionary) : List Piece → List Char → Prop
  | done : Describes tokens [] []
  | char {c : Char} {pieces : List Piece} {path : List Char}
      (others : Describes tokens pieces path) : Describes tokens (.char c :: pieces) (c :: path)
  | reference {name fragment : String} {word : List Char} {pieces : List Piece} {path : List Char}
      (hfragment : tokens.get? name = some fragment) (hword : MatchesInFull fragment word)
      (others : Describes tokens pieces path) :
      Describes tokens (.reference name :: pieces) (word ++ path)

/-- A fragment has no anchors, no conditions on the ends of words, and no flag that
turns verbose mode on. -/
def IsSelfContained (fragment : String) : Prop :=
  (Tree.ofChars? fragment.toList).any Tree.selfContained = true

instance (fragment : String) : Decidable (IsSelfContained fragment) :=
  inferInstanceAs (Decidable (_ = true))

theorem MatchesInFull.iff_of_meaning [Dialect] {fragment : String} {tree : Tree}
    (htree : Tree.ofChars? fragment.toList = some tree) (hregex : IsRegex fragment) :
    ∃ core c, tree.meaning {} = some (core, c) ∧
      ∀ word, MatchesInFull fragment word ↔ core.Matches [] word [] := by
  obtain ⟨pattern, hpattern⟩ := Option.isSome_iff_exists.mp hregex
  obtain ⟨tree', c, htree', hmeaning, -⟩ := exists_tree_of_ofChars? hpattern
  obtain rfl := Option.some.inj (htree.symm.trans htree')
  refine ⟨pattern.core, c, hmeaning, fun word => ⟨?_, fun h => ⟨pattern, hpattern, h⟩⟩⟩
  rintro ⟨pattern', hpattern', hmatches⟩
  obtain rfl := Option.some.inj (hpattern.symm.trans hpattern')
  exact hmatches

/-- Group zero of what a search finds is the whole match. -/
theorem exists_whole_of_search? [Dialect] {cs : List Char} {pattern : Pattern}
    (h : Pattern.ofChars? cs = some pattern) {path : String} {captures : Captures}
    (hsearch : pattern.search? path = some captures) :
    ∃ before text behind, before.reverse ++ (text ++ behind) = path.toList ∧
      pattern.core.Matches before text behind ∧ captures.group? 0 = some (String.ofList text) := by
  obtain ⟨before, text, behind, log, htext, htakes, hgroups, -⟩ :=
    Pattern.takes_of_search? (apart_of_ofChars? h) hsearch
  cases htakes with
  | group htakes => exact ⟨before, text, behind, htext, htakes.toMatches, by rw [hgroups]; simp⟩

/-! ## How the pieces read -/

/-- What the pieces of a rule read as, up to the end of the path: every character as
itself and every placeholder as a group, of which the body is what the token's
fragment reads as. -/
inductive InPlace [Dialect] (tokens : Dictionary) : List Piece → List Tree → Prop
  | done : InPlace tokens [] [.position .lineEnd]
  | char {c : Char} {pieces : List Piece} {trees : List Tree}
      (others : InPlace tokens pieces trees) :
      InPlace tokens (.char c :: pieces) (.literal ⟨c, false⟩ :: trees)
  | reference {name fragment : String} {kind : GroupKind} {body : Tree} {pieces : List Piece}
      {trees : List Tree} (hfragment : tokens.get? name = some fragment)
      (hregex : IsRegex fragment) (hkind : flagsOf kind = [])
      (hbody : Tree.ofChars? fragment.toList = some body) (hfree : body.selfContained = true)
      (others : InPlace tokens pieces trees) :
      InPlace tokens (.reference name :: pieces) (.group kind body :: trees)

theorem InPlace.ne_nil [Dialect] {tokens : Dictionary} {pieces : List Piece} {trees : List Tree}
    (h : InPlace tokens pieces trees) : trees ≠ [] := by
  cases h <;> exact List.cons_ne_nil _ _

/-- The rest of a rule's pattern reads as its pieces do, if the fragments of all
tokens are self-contained. -/
theorem exists_inPlace [Dialect] {tokens : Dictionary} {named : List String} {pieces : List Piece}
    (htokens : ∀ name ∈ mentions pieces, ∃ fragment, tokens.get? name = some fragment ∧
      IsRegex fragment ∧ IsSelfContained fragment)
    (hplain : ∀ name ∈ mentions pieces, '>' ∉ name.toList)
    {fuel : Nat} {parts : List Tree} {before : List String} {tree : Tree}
    (hread : loop fuel ⟨false, ⟨[], parts⟩, [], before⟩
      (ruleText (textIn tokens) named pieces ++ ['$']) = some tree) :
    ∃ trees, InPlace tokens pieces trees ∧ tree = Tree.ofParts (parts.reverse ++ trees) := by
  induction pieces generalizing named fuel parts before with
  | nil => exact ⟨_, .done, eq_of_loop_lineEnd hread⟩
  | cons piece rest ih =>
      cases piece with
      | char c =>
          rw [ruleText, List.append_assoc] at hread
          obtain ⟨fuel, hread⟩ := exists_loop_of_char hread
          obtain ⟨trees, htrees, rfl⟩ := ih htokens hplain hread
          refine ⟨_, .char htrees, ?_⟩
          simp
      | reference name =>
          obtain ⟨⟨fragment, hfragment, hregex, hself⟩, hothers⟩ :=
            List.forall_mem_cons.mp htokens
          obtain ⟨body, hbody, hfree⟩ := (Option.any_eq_true _ _).mp hself
          obtain ⟨halone, -⟩ := Option.filter_eq_some_iff.mp hbody
          rw [ruleText, textIn_eq hfragment, List.append_assoc, List.append_assoc] at hread
          obtain ⟨fuel, known, hread, -⟩ :=
            exists_loop_of_lead (hplain name List.mem_cons_self) hread
          obtain ⟨fuel, known, hread⟩ := loop_in_place (i := ⟨false, ⟨[], []⟩, []⟩)
            ⟨rfl, by simp [Inside.within]⟩ halone hfree hread
          obtain ⟨trees, htrees, rfl⟩ := ih hothers
            (fun other hother => hplain other (List.mem_cons_of_mem _ hother)) hread
          refine ⟨_, .reference hfragment hregex (flagsOf_groupKind named name) hbody hfree htrees,
            ?_⟩
          simp

/-! ## What the pieces match -/

/-- What the rest of a rule's pattern matches are the paths that its pieces describe,
up to the end of the text. -/
theorem InPlace.matches_iff [Dialect] {tokens : Dictionary} {pieces : List Piece}
    {trees : List Tree} (h : InPlace tokens pieces trees) {c c' : Context} {cores : List Core}
    (hmode : c.mode = {}) (hmeaning : Tree.meanings trees c = some (cores, c'))
    {before text behind : List Char} :
    (Core.sequence cores).Matches before text behind ↔
      behind = [] ∧ Describes tokens pieces text := by
  induction h generalizing c cores before text with
  | done =>
      rw [Tree.meanings, Tree.meaning, hmode] at hmeaning
      obtain ⟨rfl, -⟩ := Prod.mk.inj (Option.some.inj hmeaning)
      constructor
      · rintro ⟨⟩
        next h => exact ⟨Core.holds_textEnd.mp h, .done⟩
      · rintro ⟨rfl, ⟨⟩⟩
        exact .look rfl
  | @char d pieces trees others ih =>
      obtain ⟨core, rest, mid, hfirst, hrest, rfl⟩ := Tree.exists_of_meanings_cons hmeaning
      obtain ⟨rfl, rfl⟩ := eq_of_meaning_literal hmode hfirst
      have hne := Tree.ne_nil_of_meanings others.ne_nil hrest
      rw [sequence_cons _ hne, Core.matches_cat_iff]
      constructor
      · rintro ⟨_, path, rfl, hchar, hothers⟩
        cases hchar with
        | set hd =>
            obtain rfl := eq_of_contains_single hd
            obtain ⟨hbehind, hdescribes⟩ := (ih hmode hrest).mp hothers
            exact ⟨hbehind, .char hdescribes⟩
      · rintro ⟨rfl, hdescribes⟩
        cases hdescribes with
        | char hothers =>
            exact ⟨[d], _, rfl, .set (contains_single d), (ih hmode hrest).mpr ⟨rfl, hothers⟩⟩
  | @reference name fragment kind body pieces trees hfragment hregex hkind hbody hfree others ih =>
      obtain ⟨core, rest, mid, hfirst, hrest, rfl⟩ := Tree.exists_of_meanings_cons hmeaning
      obtain ⟨inner, after, hinner, rfl, rfl⟩ := Tree.exists_of_meaning_group hfirst
      obtain ⟨alone, last, halone, hfull⟩ := MatchesInFull.iff_of_meaning hbody hregex
      have hinside : (c.inside kind).mode = ({} : Context).mode := by
        rw [Context.mode_inside, hkind, hmode]
        rfl
      have hword : ∀ {before word behind}, (inner.grouped c.nextGroup kind).Matches before word
          behind ↔ MatchesInFull fragment word := by
        intro before word behind
        rw [Core.matches_grouped_iff, hfull, Tree.matches_in_place hfree hinside halone hinner]
      -- the group gives its flags back, so the rest is read as from the start
      have hih := fun {before} text =>
        @ih { after with mode := c.mode } _ hmode hrest before text
      have hne := Tree.ne_nil_of_meanings others.ne_nil hrest
      rw [sequence_cons _ hne, Core.matches_cat_iff]
      constructor
      · rintro ⟨word, path, rfl, hgroup, hothers⟩
        obtain ⟨hbehind, hdescribes⟩ := (hih path).mp hothers
        exact ⟨hbehind, .reference hfragment (hword.mp hgroup) hdescribes⟩
      · rintro ⟨rfl, hdescribes⟩
        cases hdescribes with
        | @reference _ fragment' word _ path hfragment' hfills hothers =>
            obtain rfl := Option.some.inj (hfragment.symm.trans hfragment')
            exact ⟨word, path, rfl, hword.mpr hfills, (hih path).mpr ⟨rfl, hothers⟩⟩

/-- A rule's pattern matches the paths that its pieces describe, from the start of the
text to its end. -/
theorem matches_iff_describes [Dialect] {source : String} {tokens : Dictionary} {pattern : Pattern}
    (h : compilePattern source tokens = .ok pattern)
    (htokens : ∀ name ∈ mentions (Piece.scan source), ∃ fragment,
      tokens.get? name = some fragment ∧ IsRegex fragment ∧ IsSelfContained fragment)
    (before text behind : List Char) :
    pattern.core.Matches before text behind ↔
      before = [] ∧ behind = [] ∧ Describes tokens (Piece.scan source) text := by
  obtain ⟨-, hpattern⟩ := compilePattern_eq_ok_iff.mp h
  obtain ⟨fuel, tree, c, hread, hmeaning, -⟩ := exists_loop_of_ofChars? hpattern
  obtain ⟨trees, htrees, rfl⟩ :=
    exists_inPlace htokens (fun name => plain_of_mem_mentions) hread
  obtain ⟨cores, hcores, hcore⟩ := exists_cores_of_meaning htrees.ne_nil hmeaning
  have hne := Tree.ne_nil_of_meanings htrees.ne_nil hcores
  rw [hcore, sequence_cons _ hne, Core.matches_cat_iff]
  constructor
  · rintro ⟨_, path, rfl, hstart, hothers⟩
    cases hstart with
    | look hstart =>
        exact ⟨Core.holds_textStart.mp hstart, (htrees.matches_iff rfl hcores).mp hothers⟩
  · rintro ⟨rfl, hdescribes⟩
    exact ⟨[], text, rfl, .look rfl, (htrees.matches_iff rfl hcores).mpr hdescribes⟩

end Rule

namespace RuleTable

open Rule

theorem exists_fragment_of_compilePattern [Dialect] {table : Entries} {tokens : Dictionary}
    (htokens : tokensOf table = .ok tokens) {source : String} {pattern : Pattern}
    (h : compilePattern source tokens = .ok pattern) :
    ∀ name ∈ mentions (Piece.scan source), ∃ fragment,
      tokens.get? name = some fragment ∧ IsRegex fragment := by
  intro name hname
  obtain ⟨fragment, hfragment⟩ :=
    Option.isSome_iff_exists.mp ((compilePattern_eq_ok_iff.mp h).1 name hname)
  obtain ⟨_, -, hresolve⟩ := bind_eq_ok.mp htokens
  obtain ⟨_, -, hresolve⟩ := bind_eq_ok.mp hresolve
  obtain ⟨hsettled, -⟩ := of_resolveTokens (mapError_eq_ok.mp hresolve)
  obtain ⟨-, -, -, -, hregex⟩ := hsettled.of_get? hfragment
  exact ⟨fragment, hfragment, hregex⟩

/-- A rule matches the paths that its text describes and no others, whole, if the
fragments of its tokens are self-contained. That is asked of the fragments as they are
spelled out. Before that a fragment need not be a regex, and what it uses cannot be
told. -/
theorem search?_described [Dialect] {table : Entries} {rules : RuleTable}
    {tokens : Dictionary}
    (hrules : ofNode (.mapping table) = .ok rules) (htokens : tokensOf table = .ok tokens)
    {rule : Rule} (hrule : rule ∈ rules.modifiers ++ rules.terminal)
    (hfree : ∀ name ∈ mentions (Piece.scan rule.source), ∀ fragment,
      tokens.get? name = some fragment → IsSelfContained fragment) (key : String) :
    (Piece.scan rule.source).flatMap Piece.written = rule.source.toList ∧
      ((rule.pattern.search? key).isSome = true ↔
        Describes tokens (Piece.scan rule.source) key.toList) ∧
      ∀ captures, rule.pattern.search? key = some captures → captures.group? 0 = some key := by
  obtain ⟨tokens', modifiers, htokens', hmodifiers, hterminal⟩ := ofEntries_eq_ok hrules
  obtain rfl := Except.ok.inj (htokens.symm.trans htokens')
  have hpattern : compilePattern rule.source tokens = .ok rule.pattern := by
    rcases List.mem_append.mp hrule with hrule | hrule
    · exact compilePattern_of_mem hmodifiers rule hrule
    · exact compilePattern_of_mem hterminal rule hrule
  have hmatches := matches_iff_describes hpattern fun name hname => by
    obtain ⟨fragment, hfragment, hregex⟩ :=
      exists_fragment_of_compilePattern htokens hpattern name hname
    exact ⟨fragment, hfragment, hregex, hfree name hname fragment hfragment⟩
  refine ⟨Piece.flatMap_written_scan _, ?_, ?_⟩
  · rw [Pattern.isSome_search?_iff]
    constructor
    · rintro ⟨before, text, behind, hkey, h⟩
      obtain ⟨rfl, rfl, hdescribes⟩ := (hmatches _ _ _).mp h
      rw [← hkey]
      simpa using hdescribes
    · intro hdescribes
      exact ⟨[], key.toList, [], by simp, (hmatches _ _ _).mpr ⟨rfl, rfl, hdescribes⟩⟩
  · intro captures hsearch
    obtain ⟨before, text, behind, hkey, h, hwhole⟩ :=
      exists_whole_of_search? (compilePattern_eq_ok_iff.mp hpattern).2 hsearch
    obtain ⟨rfl, rfl, -⟩ := (hmatches _ _ _).mp h
    have htext : text = key.toList := by simpa using hkey
    rw [hwhole, htext, String.ofList_toList]

/-- A rule with a token twice and another one spelled out from it. The brackets and the
asterisk of the rule stand for themselves. -/
theorem search?_described_repeated :
    let tokens := [("T", "a|b"), ("U", "<T>+")]
    let rules := Migration.rulesOf tokens [] ["x.<T>[<U>]-<T>*"]
    let known : Dictionary := ⟨[("T", "a|b"), ("U", "(?:a|b)+")]⟩
    ofNode (.mapping (Migration.tableOf tokens [] ["x.<T>[<U>]-<T>*"])) = .ok rules ∧
      ∃ rule ∈ rules.terminal, rule.source = "x.<T>[<U>]-<T>*" ∧
        Describes known (Piece.scan rule.source) "x.a[ba]-b*".toList ∧
        ¬ Describes known (Piece.scan rule.source) "x.a[ba]-b**".toList := by
  intro tokens rules known
  have hrules : ofNode (.mapping (Migration.tableOf tokens [] ["x.<T>[<U>]-<T>*"])) = .ok rules :=
    eq_ok_of_toOption (by decide +kernel)
  have hknown : tokensOf (Migration.tableOf tokens [] ["x.<T>[<U>]-<T>*"]) = .ok known :=
    eq_ok_of_toOption (by decide +kernel)
  obtain ⟨rule, hrule, hsource, hfound, hnone⟩ : ∃ rule ∈ rules.terminal,
      rule.source = "x.<T>[<U>]-<T>*" ∧ (rule.pattern.search? "x.a[ba]-b*").isSome = true ∧
        (rule.pattern.search? "x.a[ba]-b**").isSome = false := by decide +kernel
  have hfree : ∀ name ∈ mentions (Piece.scan rule.source), ∀ fragment,
      known.get? name = some fragment → IsSelfContained fragment := by
    have hall : ∀ name ∈ mentions (Piece.scan "x.<T>[<U>]-<T>*"),
        IsSelfContained (textIn known name) := by decide +kernel
    intro name hname fragment hfragment
    rw [← textIn_eq hfragment]
    exact hall name (hsource ▸ hname)
  have hdescribed := search?_described hrules hknown (List.mem_append_right _ hrule) hfree
  exact ⟨hrules, rule, hrule, hsource, (hdescribed _).2.1.mp hfound,
    fun h => by simpa [hnone] using (hdescribed _).2.1.mpr h⟩

end RuleTable

end Trialbook

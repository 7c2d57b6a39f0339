import Trialbook.Proofs.Bundled
import Trialbook.Proofs.Spelling

/-!
# Tables that move nothing

A rule whose destination is its own pattern puts every path that it matches back
where it was: the captured texts, put in place of the placeholders, are the path
again. So a migration by such rules leaves a document as it is, under the name of
its kind.

That holds as far as the pattern of a rule is made of its pieces. A fragment that
ends in a comment of verbose mode takes the parenthesis behind it, and the group
ends where the next parenthesis stands. A placeholder that comes in between has
no group then, and stays behind in the path as it is written.
-/

namespace Trialbook

open Node Text Pattern

namespace Rule

/-- The only destination of the rule is its own pattern, which does not begin
with a plus sign and in which no placeholder comes twice. -/
structure IsIdentity (rule : Rule) : Prop where
  target : rule.destinations = [Template.ofText rule.source]
  plain : rule.source.toList.head? ≠ some '+'
  distinct : (mentions (Piece.scan rule.source)).Nodup

instance (rule : Rule) : Decidable rule.IsIdentity :=
  decidable_of_iff (rule.destinations = [Template.ofText rule.source] ∧
      rule.source.toList.head? ≠ some '+' ∧ (mentions (Piece.scan rule.source)).Nodup)
    ⟨fun h => ⟨h.1, h.2.1, h.2.2⟩, fun h => ⟨h.target, h.plain, h.distinct⟩⟩

/-- Every token in the rule's pattern makes one group. -/
def Closes (tokens : Dictionary) (rule : Rule) : Prop :=
  ∀ name ∈ mentions (Piece.scan rule.source), ∀ fragment ∈ tokens.get? name,
    Tree.closes fragment.toList = true

instance (tokens : Dictionary) (rule : Rule) : Decidable (rule.Closes tokens) :=
  inferInstanceAs (Decidable (∀ name ∈ _, ∀ fragment ∈ _, _))

theorem ofText_of_plain {source : String} (h : source.toList.head? ≠ some '+') :
    Template.ofText source = ⟨false, Piece.scan source⟩ := by
  unfold Template.ofText
  split
  · next rest heq => simp [heq] at h
  · rfl

theorem IsIdentity.render [Dialect] {rule : Rule} {tokens : Dictionary} (h : rule.IsIdentity)
    (hcloses : rule.Closes tokens) (hpattern : compilePattern rule.source tokens = .ok rule.pattern)
    {path : String} {captures : Captures} (hsearch : rule.pattern.search? path = some captures) :
    (Template.ofText rule.source).render captures.named? = path := by
  obtain ⟨carried, log, hcarries, -, hnamed, hheld⟩ :=
    (madeOf_compilePattern hpattern hcloses).exists_carries hsearch
  have hcaptured : ∀ name ∈ mentions (Piece.scan rule.source),
      captures.named? name = (carried.lookup name).map String.ofList := fun name hname => by
    rw [hnamed, hheld name hname]
  rw [ofText_of_plain h.plain, Template.render,
    hcarries.flatMap_renderPiece h.distinct hcaptured, String.ofList_toList]

theorem compilePattern_of_mem [Dialect] {tokens : Dictionary} {es : Entries} {rules : RuleSet}
    (h : compileAll tokens es = .ok rules) :
    ∀ rule ∈ rules, compilePattern rule.source tokens = .ok rule.pattern := by
  induction es generalizing rules with
  | nil =>
      rw [compileAll] at h
      obtain rfl := Except.ok.inj h
      simp
  | cons e es ih =>
      obtain ⟨key, value⟩ := e
      rw [compileAll] at h
      split at h
      · simp at h
      · split at h
        · exact ih h
        · obtain ⟨pattern, hpattern, h⟩ := bind_eq_ok.mp h
          obtain ⟨targets, -, h⟩ := bind_eq_ok.mp h
          obtain ⟨others, hothers, h⟩ := bind_eq_ok.mp h
          obtain rfl := Except.ok.inj h
          intro rule hrule
          rcases List.mem_cons.mp hrule with rfl | hrule
          · exact mapError_eq_ok.mp hpattern
          · exact ih hothers rule hrule

end Rule

namespace RuleTable

open Rule

/-- The tokens of a table's mapping, spelled out. -/
def tokensOf [Dialect] (table : Entries) : Except Fault Dictionary := do
  let declared ← (section? tokensKey table).mapError .mismatch
  let tokens ← (declarations {} declared).mapError .mismatch
  (resolveTokens tokens).mapError .ruleTable

theorem ofEntries_eq_ok [Dialect] {table : Entries} {rules : RuleTable}
    (h : ofEntries table = .ok rules) :
    ∃ tokens modifiers, tokensOf table = .ok tokens ∧
      compileAll tokens modifiers = .ok rules.modifiers ∧
      compileAll tokens table = .ok rules.terminal := by
  obtain ⟨declared, hdeclared, h⟩ := bind_eq_ok.mp h
  obtain ⟨raw, hraw, h⟩ := bind_eq_ok.mp h
  obtain ⟨tokens, htokens, h⟩ := bind_eq_ok.mp h
  obtain ⟨entries, -, h⟩ := bind_eq_ok.mp h
  obtain ⟨modifiers, hmodifiers, h⟩ := bind_eq_ok.mp h
  obtain ⟨terminal, hterminal, h⟩ := bind_eq_ok.mp h
  obtain rfl := Except.ok.inj h
  exact ⟨tokens, entries, bind_eq_ok.mpr ⟨declared, hdeclared, bind_eq_ok.mpr ⟨raw, hraw, htokens⟩⟩,
    hmodifiers, hterminal⟩

end RuleTable

namespace RuleSet

/-- Rules that put back what they match write every leaf where it stands. -/
theorem writesOf_of_isIdentity [Dialect] {rules : RuleSet} {tokens : Dictionary}
    (hpatterns : ∀ rule ∈ rules, Rule.compilePattern rule.source tokens = .ok rule.pattern)
    (hidentity : ∀ rule ∈ rules, rule.IsIdentity) (hcloses : ∀ rule ∈ rules, rule.Closes tokens)
    (leaf : Leaf) : rules.writesOf leaf = [leaf.toWrite] := by
  rw [writesOf]
  split
  · rfl
  · next rule captures hfind =>
      obtain ⟨hrule, hsearch⟩ := mem_of_find? hfind
      have h := hidentity rule hrule
      have hrender := h.render (hcloses rule hrule) (hpatterns rule hrule) hsearch
      rw [h.target, List.map_singleton, hrender, Rule.ofText_of_plain h.plain]
      rfl

end RuleSet

namespace Migration

/-- The document under the name of its kind. -/
def wrapped (kind : DocumentKind) (document : Node) : Node :=
  if carriesKind kind document then document else mapping [(text kind.name, document)]

theorem exists_wrapped (kind : DocumentKind) (document : Node) :
    ∃ inner, wrapped kind document = mapping [(text kind.name, inner)] := by
  rw [wrapped]
  split
  · next hcarries => exact carriesKind_iff.mp hcarries
  · exact ⟨document, rfl⟩

theorem wellKeyed_wrapped {kind : DocumentKind} {document : Node} (h : document.WellKeyed) :
    (wrapped kind document).WellKeyed := by
  rw [wrapped]
  split
  · exact h
  · exact WellKeyed.cons_iff.mpr ⟨⟨kind.name, rfl, dotless_name kind, rfl⟩, h,
      .mapping .nil (by simp)⟩

theorem flattenAt_wrapped (kind : DocumentKind) (document : Node) :
    (wrapped kind document).flattenAt "" = flattenUnder kind document := by
  rw [wrapped, flattenUnder]
  split
  · rfl
  · rw [flattenAt_empty_path, flattenEntries, flattenEntries, List.append_nil]
    rfl

/-- By a table whose rules all put back what they match, and whose tokens each
make one group, a document migrates to itself under the name of its kind. What
no terminal rule matches is reported and nothing else. -/
theorem convert_of_isIdentity [Dialect] {table : Entries} {tokens : Dictionary}
    {rules : RuleTable}
    (htokens : RuleTable.tokensOf table = .ok tokens)
    (hrules : RuleTable.ofNode (mapping table) = .ok rules)
    (hidentity : ∀ rule ∈ rules.modifiers ++ rules.terminal, rule.IsIdentity)
    (hcloses : ∀ rule ∈ rules.modifiers ++ rules.terminal, rule.Closes tokens)
    (kind : DocumentKind) {document : Node} (h : document.WellKeyed) (policy : CollisionPolicy) :
    convert document kind rules policy = .ok
      (if carriesKind kind document then document else mapping [(text kind.name, document)],
        { misses := ((flattenUnder kind document).map Leaf.path).filter rules.terminal.misses
          dropped := []
          collisions := [] }) := by
  obtain ⟨_, modifiers, htokens', hmodifiers, hterminal⟩ := RuleTable.ofEntries_eq_ok hrules
  obtain rfl := Except.ok.inj (htokens.symm.trans htokens')
  have hfirst : ∀ leaf, rules.modifiers.writesOf leaf = [leaf.toWrite] :=
    RuleSet.writesOf_of_isIdentity (Rule.compilePattern_of_mem hmodifiers)
      (fun rule hrule => hidentity rule (List.mem_append_left _ hrule))
      fun rule hrule => hcloses rule (List.mem_append_left _ hrule)
  have hsecond : ∀ leaf, rules.terminal.writesOf leaf = [leaf.toWrite] :=
    RuleSet.writesOf_of_isIdentity (Rule.compilePattern_of_mem hterminal)
      (fun rule hrule => hidentity rule (List.mem_append_right _ hrule))
      fun rule hrule => hcloses rule (List.mem_append_right _ hrule)
  -- what either pass rebuilds are the leaves of the wrapped document where they stand
  have hrebuild : rebuild policy ((flattenUnder kind document).map Leaf.toWrite) =
      .ok (wrapped kind document, []) := by
    have hkeyed : (wrapped kind document).WellKeyed := wellKeyed_wrapped h
    rw [← flattenAt_wrapped]
    obtain ⟨inner, hinner⟩ := exists_wrapped kind document
    rw [hinner] at hkeyed ⊢
    refine rebuild_flattenAt hkeyed (fun e he => ?_) policy
    rw [List.mem_singleton.mp he]
    simpa using name_ne_empty kind
  have hwrites : (flattenUnder kind document).flatMap rules.modifiers.writesOf =
      (flattenUnder kind document).map Leaf.toWrite :=
    RuleSet.flatMap_writesOf fun leaf _ => hfirst leaf
  have hwrites' : ((wrapped kind document).flattenAt "").flatMap rules.terminal.writesOf =
      (flattenUnder kind document).map Leaf.toWrite := by
    rw [flattenAt_wrapped]
    exact RuleSet.flatMap_writesOf fun leaf _ => hsecond leaf
  have hconvert := convert_ok (hwrites ▸ hrebuild) (hwrites' ▸ hrebuild)
  rw [RuleSet.filter_drops fun leaf _ => by rw [hfirst]; exact List.cons_ne_nil _ _,
    RuleSet.filter_drops fun leaf _ => by rw [hsecond]; exact List.cons_ne_nil _ _,
    flattenAt_wrapped] at hconvert
  exact hconvert

/-- A table of identity rules for the two passes. -/
def tableOf (tokens : List (String × String)) (modifiers terminal : List String) : Entries :=
  (text Rule.tokensKey, mapping (tokens.map fun (name, fragment) => (text name, text fragment))) ::
    (text Rule.modifiersKey, mapping (modifiers.map fun pattern => (text pattern, text pattern))) ::
    terminal.map fun pattern => (text pattern, text pattern)

/-- The rules of such a table. -/
def rulesOf (tokens : List (String × String)) (modifiers terminal : List String) : RuleTable :=
  (RuleTable.ofNode (mapping (tableOf tokens modifiers terminal))).toOption.getD ⟨[], []⟩

theorem convert_of_isIdentity_token :
    let table := tableOf [("NAME", "[a-z]+")] ["te.<NAME>"] ["te.<NAME>.files"]
    let rules := rulesOf [("NAME", "[a-z]+")] ["te.<NAME>"] ["te.<NAME>.files"]
    let document := mapping [(text "x", mapping [(text "files", text "a.c"), (text "y", null)])]
    RuleTable.ofNode (mapping table) = .ok rules ∧
      (∀ rule ∈ rules.modifiers ++ rules.terminal, rule.IsIdentity) ∧ document.WellKeyed ∧
      convert document .te rules .error =
        .ok (mapping [(text "te", document)], { misses := ["te.x.y"] }) := by
  intro table rules document
  have hrules : RuleTable.ofNode (mapping table) = .ok rules :=
    eq_ok_of_toOption (by decide +kernel)
  have htokens : RuleTable.tokensOf table = .ok ⟨[("NAME", "[a-z]+")]⟩ :=
    eq_ok_of_toOption (by decide +kernel)
  have hidentity : ∀ rule ∈ rules.modifiers ++ rules.terminal, rule.IsIdentity := by
    decide +kernel
  have hinner : (mapping [(text "files", text "a.c"), (text "y", null)]).WellKeyed :=
    WellKeyed.cons_iff.mpr ⟨⟨"files", rfl, by decide, rfl⟩, .leaf (by simp),
      WellKeyed.cons_iff.mpr ⟨⟨"y", rfl, by decide, rfl⟩, .leaf (by simp), .mapping .nil (by simp)⟩⟩
  have hdocument : document.WellKeyed :=
    WellKeyed.cons_iff.mpr ⟨⟨"x", rfl, by decide, rfl⟩, hinner, .mapping .nil (by simp)⟩
  have hconvert := convert_of_isIdentity htokens hrules hidentity (by decide +kernel) .te
    hdocument .error
  have hmisses : ((flattenUnder .te document).map Leaf.path).filter rules.terminal.misses =
      ["te.x.y"] := by decide +kernel
  rw [hmisses] at hconvert
  exact ⟨hrules, hidentity, hdocument, hconvert⟩

/-- The comment of the first fragment goes on to the end of the line in the
second one. -/
theorem convert_comment_moves :
    let table := tableOf [("A", "(?x)a#"), ("B", "x\ny")] [] ["te.<A>-<B>"]
    let rules := rulesOf [("A", "(?x)a#"), ("B", "x\ny")] [] ["te.<A>-<B>"]
    let document := mapping [(text "ay", bool true)]
    RuleTable.ofNode (mapping table) = .ok rules ∧
      (∀ rule ∈ rules.modifiers ++ rules.terminal, rule.IsIdentity) ∧ document.WellKeyed ∧
      convert document .te rules .overwrite =
        .ok (mapping [(text "te", mapping [(text "ay-<B>", bool true)])], {}) ∧
      mapping [(text "te", mapping [(text "ay-<B>", bool true)])] ≠
        mapping [(text "te", document)] := by
  intro table rules document
  have hkeyed : ∀ key, Path.Dotless key → (mapping [(text key, bool true)]).WellKeyed :=
    fun key hkey => WellKeyed.cons_iff.mpr ⟨⟨key, rfl, hkey, rfl⟩, .leaf (by simp),
      .mapping .nil (by simp)⟩
  have hrebuild : ∀ {n : Node}, n.WellKeyed → rebuild .overwrite
      (((mapping [(text "te", n)]).flattenAt "").map Leaf.toWrite) =
        .ok (mapping [(text "te", n)], []) := fun hn =>
    rebuild_flattenAt (WellKeyed.cons_iff.mpr ⟨⟨"te", rfl, by decide, rfl⟩, hn,
      .mapping .nil (by simp)⟩) (by simp) .overwrite
  have hdocument : document.WellKeyed := hkeyed "ay" (by decide)
  have hfirst : rebuild .overwrite ((flattenUnder .te document).flatMap rules.modifiers.writesOf) =
      .ok (mapping [(text "te", document)], []) := by
    have hmodifiers : rules.modifiers = [] := by decide +kernel
    rw [hmodifiers]
    exact hrebuild hdocument
  have hplaces : rules.terminal.placesOf "te.ay" = [("te.ay-<B>", false)] := by decide +kernel
  have hsecond : rebuild .overwrite (((mapping [(text "te", document)]).flattenAt "").flatMap
      rules.terminal.writesOf) =
        .ok (mapping [(text "te", mapping [(text "ay-<B>", bool true)])], []) := by
    have hflat : (mapping [(text "te", document)]).flattenAt "" = [⟨"te.ay", bool true⟩] := rfl
    rw [hflat, List.flatMap_singleton, RuleSet.writesOf_eq, hplaces]
    exact hrebuild (hkeyed "ay-<B>" (by decide))
  have hconvert := convert_ok hfirst hsecond
  have hmisses : (((mapping [(text "te", document)]).flattenAt "").map Leaf.path).filter
      rules.terminal.misses = [] := by decide +kernel
  have hdrops : ((flattenUnder .te document).map Leaf.path).filter rules.modifiers.drops ++
      (((mapping [(text "te", document)]).flattenAt "").map Leaf.path).filter
        rules.terminal.drops = [] := by decide +kernel
  rw [hmisses, hdrops] at hconvert
  exact ⟨eq_ok_of_toOption (by decide +kernel), by decide +kernel, hdocument, hconvert,
    by simp [document]⟩

end Migration

end Trialbook

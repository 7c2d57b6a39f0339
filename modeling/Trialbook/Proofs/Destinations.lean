import Trialbook.Proofs.Identity
import Trialbook.Proofs.Pass

/-!
# What a destination becomes

A destination is read once, from left to right (`Rule.Replaced`). For a placeholder
of a token in the rule's pattern stands what the path carries at the first
placeholder of that name, for one of another group what the group took, and any other
is left as it is written (`Rule.inserted`). What is put in is not read again
(`RuleTable.render_iff_replaced`).

What the path carries is told by the pieces of the rule (`Rule.Carries`), and what a
group took by the log of the match (`Pattern.Core.Takes`). A token's group is never
missing from that log, as it stands in the pattern on the way from one end to the
other. That needs every fragment to keep to its group. A comment at the end of a
fragment does not (`RuleTable.render_behind_comment`).
-/

namespace Trialbook

open Pattern

namespace Rule

variable {tokens : Text.Dictionary}

/-- A destination's text without one plus sign in front. -/
def unmarked : List Char → List Char
  | '+' :: rest => rest
  | cs => cs

/-- What stands in a destination for the placeholder of a name: the first word that
the path carries for it, else what its group took, else the placeholder. -/
def inserted (carried : List (String × List Char)) (held? : String → Option (List Char))
    (name : String) : List Char :=
  match carried.lookup name with
  | some word => word
  | none => (held? name).getD (Piece.written (.reference name))

theorem unmarked_of_plain {cs : List Char} (h : cs.head? ≠ some '+') : unmarked cs = cs := by
  unfold unmarked
  split
  · simp at h
  · rfl

theorem ofText_eq (text : String) : Template.ofText text =
    ⟨text.toList.head? == some '+', Piece.scanFrom 0 (unmarked text.toList)⟩ := by
  by_cases hhead : text.toList.head? = some '+'
  · obtain ⟨rest, hrest⟩ := List.head?_eq_some_iff.mp hhead
    rw [Template.ofText, hrest]
    rfl
  · rw [ofText_of_plain hhead, unmarked_of_plain hhead, beq_eq_false_iff_ne.mpr hhead]
    rfl

/-- Pieces with something captured are the pieces with something in their place. -/
theorem flatMap_renderPiece_eq {captured : String → Option String} {put : String → List Char}
    (h : ∀ name, Template.renderPiece captured (.reference name) = put name) (before : List Char)
    (pieces : List Piece) :
    pieces.flatMap (Template.renderPiece captured) = replaceFrom (fun _ => put) before pieces := by
  induction pieces generalizing before with
  | nil => rfl
  | cons piece rest ih =>
      cases piece with
      | char c => exact congrArg _ (ih _)
      | reference name => rw [List.flatMap_cons, replaceFrom, h name, ih]

/-- What is put in for a name is what its group holds. -/
theorem Carries.inserted_eq {fits : String → List Char → List Char → List Char → Prop}
    {before text : List Char} {pieces : List Piece} {carried : List (String × List Char)}
    (h : Carries fits before pieces text carried) {held? : String → Option (List Char)}
    (hheld : ∀ name ∈ mentions pieces, held? name = carried.lookup name) (name : String) :
    inserted carried held? name = (held? name).getD (Piece.written (.reference name)) := by
  rw [inserted]
  by_cases hname : name ∈ mentions pieces
  · obtain ⟨word, -, -, hword, -⟩ := h.exists_lookup hname
    rw [hheld name hname, hword]
    rfl
  · have hnone : carried.lookup name = none := by
      refine List.lookup_eq_none_iff.mpr fun entry hentry => ?_
      have hmem : entry.1 ∈ mentions pieces := h.map_fst ▸ List.mem_map_of_mem hentry
      have hne : name ≠ entry.1 := fun heq => hname (heq ▸ hmem)
      simpa using hne
    rw [hnone]

end Rule

namespace RuleTable

open Rule

/-- Of a path that a rule's pattern matches, every destination's text is filled in
from left to right in one go, with the words that the path carries for the tokens of
the pattern and with what other groups took. -/
theorem render_iff_replaced [Dialect] {table : Entries} {rules : RuleTable}
    {tokens : Text.Dictionary}
    (hrules : ofNode (.mapping table) = .ok rules) (htokens : tokensOf table = .ok tokens)
    {rule : Rule} (hrule : rule ∈ rules.modifiers ++ rules.terminal) (hcloses : rule.Closes tokens)
    {key : String} {captures : Captures} (hsearch : rule.pattern.search? key = some captures) :
    ∃ carried log, Carries (FragmentMatches tokens) [] (Piece.scan rule.source) key.toList carried ∧
      (Core.group 0 rule.pattern.core).Takes [] key.toList [] log ∧
      (∀ name ∈ mentions (Piece.scan rule.source), ∃ word, carried.lookup name = some word ∧
        rule.pattern.held? log name = some word) ∧
      ∀ text : String, (Template.ofText text).append = (text.toList.head? == some '+') ∧
        ∀ path : String, (Template.ofText text).render captures.named? = path ↔
          Replaced (fun _ => inserted carried (rule.pattern.held? log)) [] (unmarked text.toList)
            path.toList := by
  obtain ⟨tokens', modifiers, htokens', hmodifiers, hterminal⟩ := ofEntries_eq_ok hrules
  obtain rfl := Except.ok.inj (htokens.symm.trans htokens')
  have hpattern : compilePattern rule.source tokens = .ok rule.pattern := by
    rcases List.mem_append.mp hrule with hrule | hrule
    · exact compilePattern_of_mem hmodifiers rule hrule
    · exact compilePattern_of_mem hterminal rule hrule
  obtain ⟨carried, log, hcarries, htakes, hnamed, hheld⟩ :=
    (madeOf_compilePattern hpattern hcloses).exists_carries hsearch
  refine ⟨carried, log, hcarries, htakes, fun name hname => ?_, fun text => ?_⟩
  · obtain ⟨word, -, -, hword, -⟩ := hcarries.exists_lookup hname
    exact ⟨word, hword, (hheld name hname).trans hword⟩
  · have hpiece : ∀ name, Template.renderPiece captures.named? (.reference name) =
        inserted carried (rule.pattern.held? log) name := by
      intro name
      rw [hcarries.inserted_eq hheld, Template.renderPiece, hnamed]
      cases rule.pattern.held? log name with
      | none => rfl
      | some word => exact String.toList_ofList
    rw [ofText_eq]
    refine ⟨rfl, fun path => ?_⟩
    rw [replaced_iff, Template.render, flatMap_renderPiece_eq hpiece [], ← String.toList_inj,
      String.toList_ofList, eq_comm]

/-- A token that comes twice, fragments with a group that takes part and one that does
not, and a word that looks like a placeholder itself. -/
theorem render_iff_replaced_repeated :
    let table : Entries := [(.text tokensKey, .mapping [(.text "N", .text "<[A-Z]>"),
        (.text "A", .text "a|bc"), (.text "B", .text "d(?P<X>e)?(?P<Z>f)?")]),
      (.text "x.<N>-<A>-<A>-<B>", .text "+o.<N>.<X>.<A>.<Y><Z>")]
    let known : Text.Dictionary :=
      ⟨[("A", "a|bc"), ("B", "d(?P<X>e)?(?P<Z>f)?"), ("N", "<[A-Z]>")]⟩
    ∃ rules, ofNode (.mapping table) = .ok rules ∧ tokensOf table = .ok known ∧
      ∃ rule ∈ rules.terminal, rule.Closes known ∧
        rule.destinations = [Template.ofText "+o.<N>.<X>.<A>.<Y><Z>"] ∧
        (Template.ofText "+o.<N>.<X>.<A>.<Y><Z>").append = true ∧
        ∃ carried log, Carries (FragmentMatches known) [] (Piece.scan rule.source)
            "x.<A>-bc-a-de".toList carried ∧
          Replaced (fun _ => inserted carried (rule.pattern.held? log)) []
            "o.<N>.<X>.<A>.<Y><Z>".toList "o.<A>.e.bc.<Y><Z>".toList := by
  intro table known
  let rules := (ofNode (.mapping table)).toOption.getD ⟨[], []⟩
  have hrules : ofNode (.mapping table) = .ok rules := eq_ok_of_toOption (by decide +kernel)
  have htokens : tokensOf table = .ok known := eq_ok_of_toOption (by decide +kernel)
  obtain ⟨rule, hrule, hcloses, hdestinations, hrender⟩ : ∃ rule ∈ rules.terminal,
      rule.Closes known ∧ rule.destinations = [Template.ofText "+o.<N>.<X>.<A>.<Y><Z>"] ∧
        (rule.pattern.search? "x.<A>-bc-a-de").map (fun captures =>
          (Template.ofText "+o.<N>.<X>.<A>.<Y><Z>").render captures.named?) =
            some "o.<A>.e.bc.<Y><Z>" := by decide +kernel
  obtain ⟨captures, hsearch, hpath⟩ := Option.map_eq_some_iff.mp hrender
  obtain ⟨carried, log, hcarries, -, -, hreplaced⟩ :=
    render_iff_replaced hrules htokens (List.mem_append_right _ hrule) hcloses hsearch
  obtain ⟨happend, hiff⟩ := hreplaced "+o.<N>.<X>.<A>.<Y><Z>"
  exact ⟨rules, hrules, htokens, rule, hrule, hcloses, hdestinations, happend, carried, log,
    hcarries, (hiff _).mp hpath⟩

/-- The comment of the first fragment goes on to the end of the line in the second
one. So the second token has no group, and its placeholder stays. -/
theorem render_behind_comment :
    let table : Entries := [(.text tokensKey, .mapping
        [(.text "A", .text "(?x)a#"), (.text "B", .text "b|\n\\-b")]),
      (.text "te.<A>-<B>", .text "o.<A>.<B>")]
    ∃ rules, ofNode (.mapping table) = .ok rules ∧ ∃ rule ∈ rules.terminal,
      rule.destinations = [Template.ofText "o.<A>.<B>"] ∧
        "B" ∈ mentions (Piece.scan rule.source) ∧
        (rule.pattern.search? "te.a-b").map (fun captures =>
          (Template.ofText "o.<A>.<B>").render captures.named?) = some "o.a-b.<B>" := by
  intro table
  exact ⟨(ofNode (.mapping table)).toOption.getD ⟨[], []⟩, eq_ok_of_toOption (by decide +kernel),
    by decide +kernel⟩

end RuleTable

end Trialbook

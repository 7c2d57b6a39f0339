import Trialbook.Proofs.Bundled
import Trialbook.Proofs.Tokens

/-!
# Which rule tables are accepted

A table is read in one go, and the first thing in it that does not fit ends the
reading. Which tables come through does not depend on that order: each check looks
at its own part of the table and at the texts of the tokens (`RuleTable.Reads`).

What is read are the rules in the order of the table, one for each key that is not a
note, each with its destinations in their order (`Rule.Compiles`). Which texts are
regexes is left to the dialect throughout.
-/

namespace Trialbook

open Text (Dictionary)

namespace Rule

/-! ## Sections -/

/-- The entries under a key of a table: none if nothing stands there or null. -/
inductive IsSection (table : Entries) (key : String) : Entries → Prop
  | absent (h : Entries.get? key table = none) : IsSection table key []
  | null (h : Entries.get? key table = some .null) : IsSection table key []
  | mapping {es : Entries} (h : Entries.get? key table = some (.mapping es)) :
      IsSection table key es

theorem section?_eq_ok_iff {key : String} {table es : Entries} : section? key table = .ok es ↔
    IsSection table key es := by
  constructor
  · intro h
    rw [section?] at h
    split at h
    · next hnone =>
        obtain rfl := Except.ok.inj h
        exact .absent hnone
    · next hnull =>
        obtain rfl := Except.ok.inj h
        exact .null hnull
    · next entries hentries =>
        obtain rfl := Except.ok.inj h
        exact .mapping hentries
    · simp at h
  · rintro (h | h | h)
    all_goals rw [section?, h]

theorem IsSection.unique {key : String} {table es es' : Entries} (h : IsSection table key es)
    (h' : IsSection table key es') : es = es' :=
  Except.ok.inj ((section?_eq_ok_iff.mpr h).symm.trans (section?_eq_ok_iff.mpr h'))

/-! ## Tokens -/

/-- The names and the fragments in the entries of a section, tags looked through. -/
def Declares (declared : Entries) (pairs : List (String × String)) : Prop :=
  List.Forall₂ (fun e p => e.1.text? = some p.1 ∧ e.2.text? = some p.2) declared pairs

theorem Declares.unique {declared : Entries} {pairs pairs' : List (String × String)}
    (h : Declares declared pairs) (h' : Declares declared pairs') : pairs = pairs' := by
  induction h generalizing pairs' with
  | nil => cases h'; rfl
  | cons hfirst _ ih =>
      cases h' with
      | cons hfirst' hrest' =>
          rw [ih hrest', Prod.ext (Option.some.inj (hfirst.1.symm.trans hfirst'.1))
            (Option.some.inj (hfirst.2.symm.trans hfirst'.2))]

theorem declarations_eq_ok_iff {declared : Entries} {tokens tokens' : Dictionary} :
    declarations tokens declared = .ok tokens' ↔ ∃ pairs, Declares declared pairs ∧
      tokens' = pairs.foldl (fun d p => d.insert p.1 p.2) tokens := by
  induction declared generalizing tokens with
  | nil =>
      rw [declarations, Except.ok.injEq, eq_comm]
      constructor
      · rintro rfl
        exact ⟨[], .nil, rfl⟩
      · rintro ⟨pairs, hpairs, rfl⟩
        cases hpairs
        rfl
  | cons e declared ih =>
      obtain ⟨key, value⟩ := e
      rw [declarations]
      constructor
      · intro h
        split at h
        · simp at h
        · simp at h
        · next name fragment hname hfragment =>
            obtain ⟨pairs, hpairs, rfl⟩ := ih.mp h
            exact ⟨(name, fragment) :: pairs, .cons ⟨hname, hfragment⟩ hpairs, rfl⟩
      · rintro ⟨pairs, hpairs, rfl⟩
        cases hpairs with
        | @cons _ p _ pairs hfirst hrest =>
            obtain ⟨hname, hfragment⟩ := hfirst
            simp only [hname, hfragment]
            exact ih.mpr ⟨pairs, hrest, rfl⟩

/-! ## Patterns -/

/-- The text of a rule's pattern, given the texts of tokens and the names that have
a group already. -/
def ruleText (spelled : String → String) : List String → List Piece → List Char
  | _, [] => []
  | named, .char c :: rest => escapeChar c ++ ruleText spelled named rest
  | named, .reference name :: rest =>
    (if named.contains name then "(?:" else "(?P<" ++ name ++ ">").toList ++
      (spelled name).toList ++ ')' :: ruleText spelled (name :: named) rest

/-- The text of a rule's whole pattern, given the texts of tokens. -/
def wholeText (spelled : String → String) (source : String) : List Char :=
  '^' :: (ruleText spelled [] (Piece.scan source) ++ ['$'])

theorem patternText_eq_ok_iff {source : String} {known : Dictionary} {named : List String}
    {pieces : List Piece} {body : List Char} :
    patternText source known named pieces = .ok body ↔
      (∀ name ∈ mentions pieces, (known.get? name).isSome = true) ∧
        body = ruleText (textIn known) named pieces := by
  induction pieces generalizing named body with
  | nil =>
      rw [patternText, ruleText, mentions, Except.ok.injEq, eq_comm]
      simp
  | cons piece rest ih =>
      cases piece with
      | char c =>
          rw [patternText, ruleText, mentions, bind_eq_ok]
          constructor
          · rintro ⟨further, hfurther, hbody⟩
            obtain ⟨hknown, rfl⟩ := ih.mp hfurther
            exact ⟨hknown, (Except.ok.inj hbody).symm⟩
          · rintro ⟨hknown, rfl⟩
            exact ⟨_, ih.mpr ⟨hknown, rfl⟩, rfl⟩
      | reference name =>
          rw [patternText, ruleText, mentions, List.forall_mem_cons]
          cases hname : known.get? name with
          | none => simp
          | some fragment =>
              rw [textIn_eq hname]
              constructor
              · intro h
                obtain ⟨further, hfurther, hbody⟩ := bind_eq_ok.mp h
                obtain ⟨hknown, rfl⟩ := ih.mp hfurther
                exact ⟨⟨rfl, hknown⟩, (Except.ok.inj hbody).symm⟩
              · rintro ⟨⟨-, hknown⟩, rfl⟩
                exact bind_eq_ok.mpr ⟨_, ih.mpr ⟨hknown, rfl⟩, rfl⟩

theorem compilePattern_eq_ok_iff [Pattern.Dialect] {source : String} {known : Dictionary}
    {pattern : Pattern} :
    compilePattern source known = .ok pattern ↔
      (∀ name ∈ mentions (Piece.scan source), (known.get? name).isSome = true) ∧
        Pattern.ofChars? (wholeText (textIn known) source) = some pattern := by
  rw [compilePattern, bind_eq_ok]
  constructor
  · rintro ⟨body, hbody, h⟩
    obtain ⟨hknown, rfl⟩ := patternText_eq_ok_iff.mp hbody
    refine ⟨hknown, ?_⟩
    rw [wholeText]
    split at h
    · next found hfound => rw [hfound, Except.ok.inj h]
    · simp at h
  · rintro ⟨hknown, hpattern⟩
    refine ⟨_, patternText_eq_ok_iff.mpr ⟨hknown, rfl⟩, ?_⟩
    rw [wholeText] at hpattern
    rw [hpattern]
    rfl

theorem ruleText_congr {spelled spelled' : String → String} {named : List String}
    {pieces : List Piece} (h : ∀ name ∈ mentions pieces, spelled name = spelled' name) :
    ruleText spelled named pieces = ruleText spelled' named pieces := by
  induction pieces generalizing named with
  | nil => rfl
  | cons piece rest ih =>
      cases piece with
      | char c => rw [ruleText, ruleText, ih h]
      | reference name =>
          rw [mentions, List.forall_mem_cons] at h
          rw [ruleText, ruleText, h.1, ih h.2]

/-! ## Destinations -/

/-- The texts of a rule's destinations, by the untagged node that they stand in. -/
inductive Destinations : Node → List String → Prop
  | none : Destinations .null []
  | one (s : String) : Destinations (.text s) [s]
  | several (texts : List String) : Destinations (.sequence (texts.map .text)) texts

theorem targetItems_eq_ok_iff {source : String} {items : List Node} {targets : List Template} :
    targetItems source items = .ok targets ↔
      ∃ texts : List String, items = texts.map .text ∧ targets = texts.map Template.ofText := by
  constructor
  · intro h
    induction items generalizing targets with
    | nil =>
        obtain rfl := Except.ok.inj h
        exact ⟨[], rfl, rfl⟩
    | cons item items ih =>
        cases item with
        | text s =>
            rw [targetItems] at h
            obtain ⟨others, hothers, rfl⟩ := map_eq_ok.mp h
            obtain ⟨texts, rfl, rfl⟩ := ih hothers
            exact ⟨s :: texts, rfl, rfl⟩
        | null | bool | number | sequence | mapping | tagged => simp [targetItems] at h
  · rintro ⟨texts, rfl, rfl⟩
    induction texts with
    | nil => rfl
    | cons s texts ih => rw [List.map_cons, targetItems, ih]; rfl

theorem targetsOf_eq_ok_iff {source : String} {node : Node} {targets : List Template} :
    targetsOf source node = .ok targets ↔
      ∃ texts, Destinations node texts ∧ targets = texts.map Template.ofText := by
  constructor
  · intro h
    cases node with
    | null =>
        obtain rfl := Except.ok.inj h
        exact ⟨[], .none, rfl⟩
    | text s =>
        obtain rfl := Except.ok.inj h
        exact ⟨[s], .one s, rfl⟩
    | sequence items =>
        obtain ⟨texts, rfl, rfl⟩ := targetItems_eq_ok_iff.mp h
        exact ⟨texts, .several texts, rfl⟩
    | bool | number | mapping | tagged => simp [targetsOf] at h
  · rintro ⟨texts, htexts, rfl⟩
    cases htexts with
    | none => rfl
    | one s => rfl
    | several => exact targetItems_eq_ok_iff.mpr ⟨texts, rfl, rfl⟩

/-! ## Rules -/

theorem exists_forall₂_iff {α β : Type} {R : α → β → Prop} {xs : List α} :
    (∃ ys, List.Forall₂ R xs ys) ↔ ∀ x ∈ xs, ∃ y, R x y := by
  induction xs with
  | nil => simp
  | cons x xs ih =>
      rw [List.forall_mem_cons, ← ih]
      constructor
      · rintro ⟨_, hall⟩
        cases hall with
        | cons hfirst hrest => exact ⟨⟨_, hfirst⟩, _, hrest⟩
      · rintro ⟨⟨y, hfirst⟩, ys, hrest⟩
        exact ⟨y :: ys, .cons hfirst hrest⟩

/-- Whether an entry of a table is a rule: its key is a text and no note. -/
def isRule (e : Node × Node) : Bool :=
  match e.1.text? with
  | none => false
  | some source => !isNote source

variable [Pattern.Dialect]

/-- What an entry of a table and its rule have to do with each other. -/
structure Compiles (tokens : Dictionary) (spelled : String → String) (e : Node × Node)
    (rule : Rule) : Prop where
  source : e.1.text? = some rule.source
  declared : ∀ name ∈ mentions (Piece.scan rule.source), tokens.contains name = true
  pattern : Pattern.ofChars? (wholeText spelled rule.source) = some rule.pattern
  destinations : ∃ texts, Destinations e.2 texts ∧
    rule.destinations = texts.map Template.ofText

/-- What the rules in the entries of a table have to be like. -/
structure AcceptsRules (tokens : Dictionary) (spelled : String → String) (es : Entries) : Prop where
  keys : ∀ e ∈ es, ∃ key, e.1.text? = some key
  destinations : ∀ e ∈ es, isRule e = true → ∃ texts, Destinations e.2 texts
  declared : ∀ e ∈ es, isRule e = true → ∀ source, e.1.text? = some source →
    ∀ name ∈ mentions (Piece.scan source), tokens.contains name = true
  regexes : ∀ e ∈ es, isRule e = true → ∀ source, e.1.text? = some source →
    (Pattern.ofChars? (wholeText spelled source)).isSome = true

theorem compileAll_of_note {known : Dictionary} {key value : Node} {source : String}
    (hkey : key.text? = some source) (hnote : isNote source = true) (es : Entries) :
    compileAll known ((key, value) :: es) = compileAll known es := by
  rw [compileAll, hkey]
  exact if_pos hnote

theorem compileAll_of_rule {known : Dictionary} {key value : Node} {source : String}
    (hkey : key.text? = some source) (hnote : isNote source = false) (es : Entries) :
    compileAll known ((key, value) :: es) = (do
      let pattern ← (compilePattern source known).mapError .ruleTable
      let targets ← (targetsOf source value).mapError .ruleTable
      return ⟨source, pattern, targets⟩ :: (← compileAll known es)) := by
  rw [compileAll, hkey]
  exact if_neg (by rw [hnote]; exact Bool.false_ne_true)

section

variable {tokens known : Dictionary} {spelled : String → String}
  (hknown : ∀ name, known.get? name = if tokens.contains name then some (spelled name) else none)

include hknown

theorem compiles_iff {e : Node × Node} {rule : Rule} :
    Compiles tokens spelled e rule ↔ e.1.text? = some rule.source ∧
      compilePattern rule.source known = .ok rule.pattern ∧
      targetsOf rule.source e.2 = .ok rule.destinations := by
  have hdeclared : ∀ name, (known.get? name).isSome = true ↔ tokens.contains name = true := by
    intro name
    rw [hknown]
    split <;> simp [*]
  have hspelled : ∀ name, tokens.contains name = true → textIn known name = spelled name := by
    intro name hname
    exact textIn_eq (by rw [hknown, if_pos hname])
  have hwhole : ∀ source, (∀ name ∈ mentions (Piece.scan source), tokens.contains name = true) →
      wholeText (textIn known) source = wholeText spelled source := by
    intro source hmentions
    rw [wholeText, wholeText, ruleText_congr fun name hname => hspelled name (hmentions name hname)]
  simp only [compilePattern_eq_ok_iff, targetsOf_eq_ok_iff, hdeclared]
  constructor
  · intro h
    exact ⟨h.source, ⟨h.declared, by rw [hwhole _ h.declared, h.pattern]⟩, h.destinations⟩
  · rintro ⟨hsource, ⟨hmentions, hpattern⟩, htargets⟩
    exact ⟨hsource, hmentions, by rw [← hwhole _ hmentions, hpattern], htargets⟩

/-- The rules of a table's entries are one for each that is no note, in order. -/
theorem compileAll_eq_ok_iff {es : Entries} {rules : RuleSet} :
    compileAll known es = .ok rules ↔ (∀ e ∈ es, ∃ key, e.1.text? = some key) ∧
      List.Forall₂ (Compiles tokens spelled) (es.filter isRule) rules := by
  induction es generalizing rules with
  | nil =>
      rw [compileAll, Except.ok.injEq, List.filter_nil, List.forall₂_nil_left_iff, eq_comm]
      simp
  | cons e es ih =>
      obtain ⟨key, value⟩ := e
      rw [List.forall_mem_cons]
      cases hkey : key.text? with
      | none => simp [compileAll, hkey]
      | some source =>
          have hsource : ∃ s, some source = some s := ⟨source, rfl⟩
          cases hnote : isNote source with
          | true =>
              have hrule : ¬ isRule (key, value) = true := by simp [isRule, hkey, hnote]
              rw [compileAll_of_note hkey hnote, List.filter_cons_of_neg hrule, ih]
              simp only [hsource, true_and]
          | false =>
              have hrule : isRule (key, value) = true := by simp [isRule, hkey, hnote]
              rw [compileAll_of_rule hkey hnote, List.filter_cons_of_pos hrule]
              constructor
              · intro h
                obtain ⟨pattern, hpattern, h⟩ := bind_eq_ok.mp h
                obtain ⟨targets, htargets, h⟩ := bind_eq_ok.mp h
                obtain ⟨others, hothers, h⟩ := bind_eq_ok.mp h
                obtain rfl := Except.ok.inj h
                obtain ⟨hkeys, hall⟩ := ih.mp hothers
                refine ⟨⟨hsource, hkeys⟩, .cons ?_ hall⟩
                exact (compiles_iff hknown).mpr
                  ⟨hkey, mapError_eq_ok.mp hpattern, mapError_eq_ok.mp htargets⟩
              · rintro ⟨⟨-, hkeys⟩, hall⟩
                cases hall with
                | @cons _ rule _ others hfirst hrest =>
                    obtain ⟨hsame, hpattern, htargets⟩ := (compiles_iff hknown).mp hfirst
                    obtain rfl : source = rule.source := Option.some.inj (hkey.symm.trans hsame)
                    refine bind_eq_ok.mpr ⟨_, mapError_eq_ok.mpr hpattern, ?_⟩
                    refine bind_eq_ok.mpr ⟨_, mapError_eq_ok.mpr htargets, ?_⟩
                    exact bind_eq_ok.mpr ⟨_, ih.mpr ⟨hkeys, hrest⟩, rfl⟩

theorem exists_compileAll_iff {es : Entries} :
    (∃ rules, compileAll known es = .ok rules) ↔ AcceptsRules tokens spelled es := by
  simp only [compileAll_eq_ok_iff hknown, exists_and_left, exists_forall₂_iff, List.mem_filter]
  constructor
  · rintro ⟨hkeys, hrules⟩
    have hsource : ∀ e ∈ es, isRule e = true → ∀ source, e.1.text? = some source →
        ∃ rule : Rule, rule.source = source ∧ Compiles tokens spelled e rule := by
      intro e he hrule source hsource
      obtain ⟨rule, hcompiles⟩ := hrules e ⟨he, hrule⟩
      exact ⟨rule, Option.some.inj (hcompiles.source.symm.trans hsource), hcompiles⟩
    refine ⟨hkeys, fun e he hrule => ?_, fun e he hrule source hkey => ?_,
      fun e he hrule source hkey => ?_⟩
    · obtain ⟨rule, hcompiles⟩ := hrules e ⟨he, hrule⟩
      obtain ⟨texts, htexts, -⟩ := hcompiles.destinations
      exact ⟨texts, htexts⟩
    · obtain ⟨rule, rfl, hcompiles⟩ := hsource e he hrule source hkey
      exact hcompiles.declared
    · obtain ⟨rule, rfl, hcompiles⟩ := hsource e he hrule source hkey
      rw [hcompiles.pattern]
      rfl
  · intro h
    refine ⟨h.keys, fun e ⟨he, hrule⟩ => ?_⟩
    obtain ⟨source, hkey⟩ := h.keys e he
    obtain ⟨texts, htexts⟩ := h.destinations e he hrule
    obtain ⟨pattern, hpattern⟩ := Option.isSome_iff_exists.mp (h.regexes e he hrule source hkey)
    exact ⟨⟨source, pattern, texts.map Template.ofText⟩, hkey, h.declared e he hrule source hkey,
      hpattern, texts, htexts, rfl⟩

end

end Rule

/-! ## Tables -/

namespace RuleTable

open Rule

section

variable [Pattern.Dialect]

/-- What a node has to be like to be read as a table of rules: the table's entries,
those that declare tokens and those of the first pass, the fragments of the tokens
and the texts that they are spelled out to. -/
structure Reads (node : Node) (table declared modifiers : Entries) (tokens : Dictionary)
    (spelled : String → String) : Prop where
  isTable : node = .mapping table
  isTokens : IsSection table tokensKey declared
  fragments : ∃ pairs, Declares declared pairs ∧ tokens = .ofList pairs
  acyclic : Acyclic tokens
  spells : Spells tokens spelled
  regexes : ∀ name, tokens.contains name = true → IsRegex (spelled name)
  isModifiers : IsSection table modifiersKey modifiers
  first : AcceptsRules tokens spelled modifiers
  second : AcceptsRules tokens spelled table

theorem ofEntries_eq_ok_iff {table : Entries} {rules : RuleTable} :
    ofEntries table = .ok rules ↔ ∃ declared pairs known modifiers,
      IsSection table tokensKey declared ∧ Declares declared pairs ∧
      resolveTokens (.ofList pairs) = .ok known ∧ IsSection table modifiersKey modifiers ∧
      compileAll known modifiers = .ok rules.modifiers ∧
      compileAll known table = .ok rules.terminal := by
  simp only [ofEntries, bind_eq_ok, mapError_eq_ok, section?_eq_ok_iff, declarations_eq_ok_iff]
  constructor
  · rintro ⟨declared, hdeclared, tokens, ⟨pairs, hpairs, rfl⟩, known, hknown, modifiers, hmodifiers,
      first, hfirst, second, hsecond, h⟩
    obtain rfl := Except.ok.inj h
    exact ⟨declared, pairs, known, modifiers, hdeclared, hpairs, hknown, hmodifiers, hfirst,
      hsecond⟩
  · rintro ⟨declared, pairs, known, modifiers, hdeclared, hpairs, hknown, hmodifiers, hfirst,
      hsecond⟩
    exact ⟨declared, hdeclared, _, ⟨pairs, hpairs, rfl⟩, known, hknown, modifiers, hmodifiers,
      _, hfirst, _, hsecond, rfl⟩

theorem ofNode_eq_ok_iff {node : Node} {rules : RuleTable} :
    ofNode node = .ok rules ↔ ∃ table, node = .mapping table ∧ ofEntries table = .ok rules := by
  cases node <;> simp [ofNode]

theorem exists_reads {node : Node} {rules : RuleTable} (h : ofNode node = .ok rules) :
    ∃ table declared modifiers tokens spelled,
      Reads node table declared modifiers tokens spelled := by
  obtain ⟨table, rfl, hentries⟩ := ofNode_eq_ok_iff.mp h
  obtain ⟨declared, pairs, known, modifiers, hdeclared, hpairs, hknown, hmodifiers, hfirst,
    hsecond⟩ := ofEntries_eq_ok_iff.mp hentries
  obtain ⟨hacyclic, spelled, hspells, hregexes⟩ := exists_resolveTokens_iff.mp ⟨known, hknown⟩
  have hget := get?_of_resolveTokens hknown hspells
  exact ⟨table, declared, modifiers, .ofList pairs, spelled,
    { isTable := rfl
      isTokens := hdeclared
      fragments := ⟨pairs, hpairs, rfl⟩
      acyclic := hacyclic
      spells := hspells
      regexes := hregexes
      isModifiers := hmodifiers
      first := (exists_compileAll_iff hget).mp ⟨_, hfirst⟩
      second := (exists_compileAll_iff hget).mp ⟨_, hsecond⟩ }⟩

namespace Reads

variable {node : Node} {table declared modifiers : Entries} {tokens : Dictionary}
  {spelled : String → String}

theorem exists_ofNode (h : Reads node table declared modifiers tokens spelled) :
    ∃ rules, ofNode node = .ok rules := by
  obtain ⟨pairs, hpairs, rfl⟩ := h.fragments
  obtain ⟨known, hknown⟩ := exists_resolveTokens h.acyclic h.spells h.regexes
  have hget := get?_of_resolveTokens hknown h.spells
  obtain ⟨first, hfirst⟩ := (exists_compileAll_iff hget).mpr h.first
  obtain ⟨second, hsecond⟩ := (exists_compileAll_iff hget).mpr h.second
  refine ⟨⟨first, second⟩, ofNode_eq_ok_iff.mpr ⟨table, h.isTable, ?_⟩⟩
  exact ofEntries_eq_ok_iff.mpr ⟨declared, pairs, known, modifiers, h.isTokens, hpairs, hknown,
    h.isModifiers, hfirst, hsecond⟩

/-- The rules are those of the entries, however the node was read. -/
theorem compiles (h : Reads node table declared modifiers tokens spelled) {rules : RuleTable}
    (hrules : ofNode node = .ok rules) :
    List.Forall₂ (Compiles tokens spelled) (modifiers.filter isRule) rules.modifiers ∧
      List.Forall₂ (Compiles tokens spelled) (table.filter isRule) rules.terminal := by
  obtain ⟨table', htable, hentries⟩ := ofNode_eq_ok_iff.mp hrules
  obtain rfl := Node.mapping.inj (h.isTable.symm.trans htable)
  obtain ⟨declared', pairs', known, modifiers', hdeclared, hpairs', hknown, hmodifiers, hfirst,
    hsecond⟩ := ofEntries_eq_ok_iff.mp hentries
  obtain rfl := hdeclared.unique h.isTokens
  obtain rfl := hmodifiers.unique h.isModifiers
  obtain ⟨pairs, hpairs, rfl⟩ := h.fragments
  rw [hpairs'.unique hpairs] at hknown
  have hget := get?_of_resolveTokens hknown h.spells
  exact ⟨((compileAll_eq_ok_iff hget).mp hfirst).2, ((compileAll_eq_ok_iff hget).mp hsecond).2⟩

end Reads

/-- A node is accepted if and only if it can be read as a table of rules, and then the
rules of both passes are those of its entries, in order. -/
theorem ofNode_accepts_exactly (node : Node) :
    ((∃ rules, ofNode node = .ok rules) ↔
      ∃ table declared modifiers tokens spelled,
        Reads node table declared modifiers tokens spelled) ∧
    ∀ table declared modifiers tokens spelled rules,
      Reads node table declared modifiers tokens spelled → ofNode node = .ok rules →
      List.Forall₂ (Compiles tokens spelled) (modifiers.filter isRule) rules.modifiers ∧
      List.Forall₂ (Compiles tokens spelled) (table.filter isRule) rules.terminal := by
  refine ⟨⟨?_, ?_⟩, ?_⟩
  · rintro ⟨rules, h⟩
    exact exists_reads h
  · rintro ⟨table, declared, modifiers, tokens, spelled, hreads⟩
    exact hreads.exists_ofNode
  · intro table declared modifiers tokens spelled rules hreads h
    exact hreads.compiles h

end

/-- The bundled table has eleven rules in the first pass and thirteen in the second. -/
theorem ofNode_accepts_exactly_bundled :
    ∃ rules, ofNode Bundled.table = .ok rules ∧ rules.modifiers.length = 11 ∧
      rules.terminal.length = 13 := by
  obtain ⟨haccepts, hrules⟩ := ofNode_accepts_exactly Bundled.table
  have hbundled : ofNode Bundled.table = .ok Bundled.rules := bundled_eq
  obtain ⟨table, declared, modifiers, tokens, spelled, hreads⟩ := haccepts.mp ⟨_, hbundled⟩
  obtain ⟨hfirst, hsecond⟩ := hrules _ _ _ _ _ _ hreads hbundled
  have htable : Bundled.table = .mapping table := hreads.isTable
  obtain rfl := Node.mapping.inj htable
  obtain rfl : modifiers = Bundled.modifiers :=
    hreads.isModifiers.unique (.mapping rfl)
  exact ⟨_, hbundled, hfirst.length_eq.symm, hsecond.length_eq.symm⟩

end RuleTable

end Trialbook

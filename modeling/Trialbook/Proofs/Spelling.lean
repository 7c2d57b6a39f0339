import Trialbook.Proofs.InPlace
import Trialbook.Proofs.Placeholders
import Trialbook.Proofs.Reading
import Trialbook.Proofs.Spelled

/-!
# How a rule reads

The pattern of a rule is written down from its pieces and read again. What is read
are the pieces, if every fragment makes one group: each character of the rule as
itself, and each placeholder as a group, of its name if the name has none yet
(`exists_spelt`). What that means are the pieces again, each group under its number
(`Spelt.exists_parts`). Inside of a group stands what the fragment means between
parentheses of its own, whatever stands before it (`FragmentMatches`).

A name stands for the first group that has it, and so it has to be known that the
fragments before a placeholder bring in no group of its name. The reader sees to
that. It has come past them when it meets the placeholder, and takes no name twice.
-/

namespace Trialbook

open Pattern Pattern.Reader Text

namespace Rule

variable {u w : Rest} {tokens : Dictionary}

/-- A word is matched by a token's fragment, between parentheses, where it stands. -/
def FragmentMatches [Dialect] (tokens : Dictionary) (name : String)
    (before word behind : List Char) : Prop :=
  ∃ fragment tree core c, tokens.get? name = some fragment ∧
    Tree.ofChars? ('(' :: '?' :: ':' :: (fragment.toList ++ [')'])) = some tree ∧
    tree.meaning {} = some (core, c) ∧ core.Matches before word behind

/-- What a token's fragment reads as between parentheses. -/
def ReadsAs (tokens : Dictionary) (name : String) (body : Tree) : Prop :=
  ∃ fragment, tokens.get? name = some fragment ∧
    Tree.ofChars? ('(' :: '?' :: ':' :: (fragment.toList ++ [')'])) =
      some (.group (.plain []) body)

/-- The group that a placeholder becomes, given the names that have one already. -/
def groupKind (named : List String) (name : String) : GroupKind :=
  if named.contains name then .plain [] else .named name

theorem flagsOf_groupKind (named : List String) (name : String) :
    flagsOf (groupKind named name) = [] := by
  unfold groupKind
  split <;> rfl

/-- What the pieces of a rule read as, up to the end of the path, given the names that
have a group already and those that the reader has met: every character as itself and
every placeholder as a group. A name that has no group yet is new to the reader. -/
inductive Spelt (tokens : Dictionary) : List String → List String → List Piece → List Tree → Prop
  | done {named before : List String} : Spelt tokens named before [] [.position .lineEnd]
  | char {named before : List String} {c : Char} {pieces : List Piece} {trees : List Tree}
      (others : Spelt tokens named before pieces trees) :
      Spelt tokens named before (.char c :: pieces) (.literal ⟨c, false⟩ :: trees)
  | reference {named before after : List String} {name : String} {body : Tree}
      {pieces : List Piece} {trees : List Tree} (hbody : ReadsAs tokens name body)
      (hnew : name ∉ named → name ∉ before ∧ name ∈ after)
      (hbefore : ∀ other ∈ before, other ∈ after) (hinner : ∀ other ∈ body.names, other ∈ after)
      (others : Spelt tokens (name :: named) after pieces trees) :
      Spelt tokens named before (.reference name :: pieces)
        (.group (groupKind named name) body :: trees)

theorem Spelt.ne_nil {named before : List String} {pieces : List Piece} {trees : List Tree}
    (h : Spelt tokens named before pieces trees) : trees ≠ [] := by
  cases h <;> exact List.cons_ne_nil _ _

theorem isEscapable_of_isMeta {c : Char} (h : isMeta c = true) : isEscapable c = true := by
  have hall : "\\.+*?()|[]\x7b\x7d^$#&-~".toList.all isEscapable = true := by decide
  exact List.all_eq_true.mp hall c (List.contains_iff_mem.mp h)

/-- A character of a rule is read as itself. -/
theorem read_escapeChar (c : Char) (cs : Rest) :
    ∃ d ds, escapeChar c ++ cs = d :: ds ∧
      Item.read false d ds = some (.part (.literal ⟨c, false⟩), cs) := by
  rw [escapeChar]
  cases hmeta : isMeta c with
  | true =>
      have hescape : escape false (c :: cs) = some (.literal ⟨c, false⟩, cs) := by
        rw [escape_cons, escapeKind?_of_isEscapable (isEscapable_of_isMeta hmeta)]
        rfl
      refine ⟨'\\', c :: cs, rfl, ?_⟩
      show (escape false (c :: cs)).map _ = _
      rw [hescape]
      rfl
  | false =>
      refine ⟨c, cs, rfl, ?_⟩
      unfold Item.read
      split
      all_goals first
        | rfl
        | exact absurd hmeta (by decide)

/-- Behind a character of a rule the reader is where it was, with one part more. -/
theorem exists_loop_of_char {c : Char} {fuel : Nat} {level : Level} {before : List String}
    {cs : Rest} {tree : Tree}
    (h : loop fuel ⟨false, level, [], before⟩ (escapeChar c ++ cs) = some tree) :
    ∃ fuel', loop fuel' ⟨false, level.add (.literal ⟨c, false⟩), [], before⟩ cs = some tree := by
  obtain ⟨d, ds, hcons, hitem⟩ := read_escapeChar c cs
  rw [hcons] at h
  obtain ⟨fuel, item, u, s, -, hitem', htake, hread⟩ := exists_turn h rfl
  obtain ⟨rfl, rfl⟩ := Prod.mk.inj (Option.some.inj (hitem.symm.trans hitem'))
  obtain rfl := Option.some.inj htake
  exact ⟨fuel, hread⟩

/-- The end of a path is the last part of a rule's pattern. -/
theorem eq_of_loop_lineEnd {fuel : Nat} {parts : List Tree} {before : List String} {tree : Tree}
    (h : loop fuel ⟨false, ⟨[], parts⟩, [], before⟩ ['$'] = some tree) :
    tree = Tree.ofParts (parts.reverse ++ [.position .lineEnd]) := by
  obtain ⟨fuel, item, u, s, -, hitem, htake, hread⟩ := exists_turn h rfl
  obtain ⟨rfl, rfl⟩ := Prod.mk.inj (Option.some.inj hitem)
  obtain rfl := Option.some.inj htake
  cases fuel with
  | zero => simp [loop] at hread
  | succ fuel =>
      rw [loop_nil rfl] at hread
      rw [← Option.some.inj hread, ← List.reverse_cons]
      rfl

theorem reference_mem_of_mem_mentions {pieces : List Piece} {name : String}
    (h : name ∈ mentions pieces) : .reference name ∈ pieces := by
  induction pieces with
  | nil => simp [mentions] at h
  | cons piece rest ih =>
      cases piece with
      | char c => exact List.mem_cons_of_mem _ (ih h)
      | reference other =>
          rcases List.mem_cons.mp h with rfl | h
          · exact List.mem_cons_self
          · exact List.mem_cons_of_mem _ (ih h)

theorem plain_of_mem_mentions {source name : String} (h : name ∈ mentions (Piece.scan source)) :
    '>' ∉ name.toList := by
  intro hmem
  have hname := Piece.isName_of_mem_scanFrom (reference_mem_of_mem_mentions h)
  exact absurd (Piece.continuesName_of_isName hname _ hmem) (by decide)

/-- The group of a placeholder, up to where the fragment begins. -/
theorem read_openName {name : String} (hname : '>' ∉ name.toList) {cs : Rest} {item : Item}
    (h : Item.read false '(' ('?' :: 'P' :: '<' :: (name.toList ++ '>' :: cs)) =
      some (item, u)) : item = .enter (.named name) ∧ u = cs := by
  have hopen : opening false ('?' :: 'P' :: '<' :: (name.toList ++ '>' :: cs)) =
      (groupName (name.toList ++ '>' :: cs)).map fun p => (.group (.named p.1), p.2) := by
    rw [opening_eq rfl]
    rfl
  have hplain : ∀ c ∈ name.toList, (c != '>') = true := fun c hc => by
    simpa using fun heq : c = '>' => hname (heq ▸ hc)
  have htake : (name.toList ++ '>' :: cs).takeWhile (· != '>') = name.toList := by
    rw [List.takeWhile_append_of_pos hplain]
    simp
  have hdrop : (name.toList ++ '>' :: cs).dropWhile (· != '>') = '>' :: cs := by
    rw [List.dropWhile_append_of_pos hplain]
    simp
  obtain ⟨p, hp, hitem⟩ := Option.map_eq_some_iff.mp h
  rw [hopen] at hp
  obtain ⟨q, hq, rfl⟩ := Option.map_eq_some_iff.mp hp
  rw [groupName_eq, hdrop, htake] at hq
  obtain ⟨found, hfound, hq'⟩ := Option.bind_eq_some_iff.mp hq
  obtain rfl : found = name := by
    unfold checkedName at hfound
    split at hfound
    · simp at hfound
    · split at hfound
      · rw [← Option.some.inj hfound, String.ofList_toList]
      · simp at hfound
  obtain rfl := Option.some.inj hq'
  obtain ⟨rfl, rfl⟩ := Prod.mk.inj hitem
  exact ⟨rfl, rfl⟩

/-- In front of a fragment a group is entered, which sets no flags. -/
theorem exists_loop_of_lead {name : String} {named : List String} (hname : '>' ∉ name.toList)
    {fuel : Nat} {level : Level} {before : List String} {cs : List Char} {tree : Tree}
    (h : loop fuel ⟨false, level, [], before⟩
      ((if named.contains name then "(?:" else "(?P<" ++ name ++ ">").toList ++ cs) = some tree) :
    ∃ fuel' known,
      loop fuel' ⟨false, ⟨[], []⟩, [⟨level, groupKind named name, false⟩], known⟩ cs = some tree ∧
        (∀ other ∈ before, other ∈ known) ∧ (name ∉ named → name ∉ before ∧ name ∈ known) := by
  rw [groupKind]
  split at h
  · next hnamed =>
      obtain ⟨fuel, item, u, s, -, hitem, htake, hread⟩ := exists_turn h rfl
      obtain ⟨rfl, rfl⟩ := Prod.mk.inj (Option.some.inj hitem)
      obtain rfl := Option.some.inj htake
      rw [if_pos hnamed]
      exact ⟨fuel, before, hread, fun _ => id, fun hnew => absurd (by simpa using hnamed) hnew⟩
  · next hnamed =>
      have hlead : ("(?P<" ++ name ++ ">").toList ++ cs =
          '(' :: ('?' :: 'P' :: '<' :: (name.toList ++ '>' :: cs)) := by simp
      rw [hlead] at h
      obtain ⟨fuel, item, u, s, -, hitem, htake, hread⟩ := exists_turn h rfl
      obtain ⟨rfl, rfl⟩ := read_openName hname hitem
      obtain ⟨hfresh, henter⟩ : before.contains name = false ∧ some _ = some s := by
        have henter : (if before.contains name then none else some _) = some s := htake
        obtain ⟨hfresh, henter⟩ := Option.ite_none_left_eq_some.mp henter
        exact ⟨by simpa using hfresh, henter⟩
      obtain rfl := Option.some.inj henter
      rw [if_neg hnamed]
      exact ⟨fuel, name :: before, hread, fun other => List.mem_cons_of_mem name, fun _ =>
        ⟨by simpa using hfresh, List.mem_cons_self⟩⟩

/-- The group of a placeholder is read to its end and left. -/
theorem exists_fragment_read {fragment : List Char} (hcloses : Tree.closes fragment = true)
    {fuel : Nat} {level : Level} {kind : GroupKind} {before : List String} {tree : Tree}
    (h : loop fuel ⟨false, ⟨[], []⟩, [⟨level, kind, false⟩], before⟩ ((fragment ++ [')']) ++ w) =
      some tree) :
    ∃ body, Tree.ofChars? ('(' :: '?' :: ':' :: (fragment ++ [')'])) =
        some (.group (.plain []) body) ∧
      ∃ fuel' after, loop fuel' ⟨false, level.add (.group kind body), [], after⟩ w = some tree ∧
        (∀ other ∈ before, other ∈ after) ∧ ∀ other ∈ body.names, other ∈ after := by
  obtain ⟨own, body, htree, _, halone⟩ := exists_loop_of_closes hcloses
  have hends : Ends (fragment ++ [')']) := by simp [Ends]
  obtain ⟨rfl, hread⟩ := loop_enclosed hends halone h
    ⟨by simp [Level.Within], by simp, by simp⟩
  exact ⟨body, htree, hread⟩

/-- The rest of a rule's pattern reads as its pieces are spelled, if every
token's fragment makes one group. -/
theorem exists_spelt {source : String} {named : List String} {pieces : List Piece}
    {body : List Char} (htext : patternText source tokens named pieces = .ok body)
    (hplain : ∀ name ∈ mentions pieces, '>' ∉ name.toList)
    (hcloses : ∀ name ∈ mentions pieces, ∀ fragment, tokens.get? name = some fragment →
      Tree.closes fragment.toList = true)
    {fuel : Nat} {parts : List Tree} {before : List String} {tree : Tree}
    (hread : loop fuel ⟨false, ⟨[], parts⟩, [], before⟩ (body ++ ['$']) = some tree) :
    ∃ trees, Spelt tokens named before pieces trees ∧
      tree = Tree.ofParts (parts.reverse ++ trees) := by
  induction pieces generalizing named body fuel parts before with
  | nil =>
      rw [patternText] at htext
      obtain rfl := Except.ok.inj htext
      exact ⟨_, .done, eq_of_loop_lineEnd hread⟩
  | cons piece rest ih =>
      cases piece with
      | char c =>
          rw [patternText] at htext
          obtain ⟨further, hfurther, htext⟩ := bind_eq_ok.mp htext
          obtain rfl := Except.ok.inj htext
          rw [List.append_assoc] at hread
          obtain ⟨fuel, hread⟩ := exists_loop_of_char hread
          obtain ⟨trees, htrees, rfl⟩ := ih hfurther hplain hcloses hread
          refine ⟨_, .char htrees, ?_⟩
          simp
      | reference name =>
          simp only [patternText] at htext
          split at htext
          · simp at htext
          next fragment hfragment =>
          obtain ⟨further, hfurther, htext⟩ := bind_eq_ok.mp htext
          obtain rfl := Except.ok.inj htext
          rw [List.append_assoc, List.append_assoc] at hread
          obtain ⟨fuel, known, hread, hbefore, hnew⟩ :=
            exists_loop_of_lead (hplain name List.mem_cons_self) hread
          have hrest : fragment.toList ++ (')' :: further ++ ['$']) =
              (fragment.toList ++ [')']) ++ (further ++ ['$']) := by simp
          rw [hrest] at hread
          obtain ⟨body, hbody, fuel, after, hread, hknown, hinner⟩ :=
            exists_fragment_read (hcloses name List.mem_cons_self fragment hfragment) hread
          obtain ⟨trees, htrees, rfl⟩ := ih hfurther
            (fun other hother => hplain other (List.mem_cons_of_mem _ hother))
            (fun other hother => hcloses other (List.mem_cons_of_mem _ hother)) hread
          refine ⟨_, .reference ⟨fragment, hfragment, hbody⟩ (fun h => ?_)
            (fun other hother => hknown other (hbefore other hother)) hinner htrees, ?_⟩
          · exact ⟨(hnew h).1, hknown name (hnew h).2⟩
          · simp

/-- The name is first given to this number. -/
def FirstNamed (names : List (String × Nat)) (name : String) (index : Nat) : Prop :=
  ∃ later earlier, names = later ++ (name, index) :: earlier ∧ ∀ entry ∈ earlier, entry.1 ≠ name

theorem FirstNamed.lookup {names : List (String × Nat)} {name : String} {index : Nat}
    (h : FirstNamed names name index) {keep : String × Nat → Bool}
    (hkeep : keep (name, index) = true) :
    (names.reverse.filter keep).lookup name = some index := by
  obtain ⟨later, earlier, rfl, hearlier⟩ := h
  rw [List.lookup_eq_some_iff]
  refine ⟨earlier.reverse.filter keep, later.reverse.filter keep, ?_, fun entry hentry => ?_⟩
  · simp [hkeep]
  · have hmem := List.mem_reverse.mp (List.mem_of_mem_filter hentry)
    simpa using (hearlier entry hmem).symm

variable [Dialect]

theorem eq_of_meaning_literal {d : Char} {c c' : Context} {core : Core} (hmode : c.mode = {})
    (h : (Tree.literal ⟨d, false⟩).meaning c = some (core, c')) :
    Core.set (.single d) = core ∧ c = c' := by
  rw [Tree.meaning, hmode] at h
  exact Prod.mk.inj (Option.some.inj h)

/-- What stands in the group of a placeholder matches what the fragment matches. -/
theorem ReadsAs.fragmentMatches {name : String} {body : Tree} (h : ReadsAs tokens name body)
    {c c' : Context} {inner : Core} (hmode : c.mode = {})
    (hinner : body.meaning c = some (inner, c')) {before word behind : List Char}
    (hmatches : inner.Matches before word behind) :
    FragmentMatches tokens name before word behind := by
  obtain ⟨fragment, hfragment, htree⟩ := h
  obtain ⟨alone, after, halone, hsame⟩ := Tree.exists_meaning body
    (d := ({} : Context).inside (.plain [])) hmode.symm hinner
  have hmeaning : (Tree.group (.plain []) body).meaning {} =
      some (alone, { after with mode := {} }) := by
    rw [Tree.meaning_group, halone]
    rfl
  exact ⟨fragment, _, alone, _, hfragment, htree, hmeaning,
    hmatches.of_unnumbered_eq hsame.unnumbered.symm⟩

/-- What a rule reads as means the pieces one after the other, and every
placeholder comes first by its name. -/
theorem Spelt.exists_parts {named before : List String} {pieces : List Piece} {trees : List Tree}
    (h : Spelt tokens named before pieces trees) {c c' : Context} {cores : List Core}
    (hmode : c.mode = {}) (hknown : ∀ entry ∈ c.names, entry.1 ∈ before)
    (hmeaning : Tree.meanings trees c = some (cores, c')) :
    ∃ groups, Parts (FragmentMatches tokens) c.nextGroup named pieces cores groups ∧
      ∀ entry ∈ groups, FirstNamed c'.names entry.1 entry.2 := by
  induction h generalizing c cores with
  | done =>
      rw [Tree.meanings, Tree.meaning, hmode] at hmeaning
      obtain ⟨rfl, -⟩ := Prod.mk.inj (Option.some.inj hmeaning)
      exact ⟨[], .done, by simp⟩
  | char _ ih =>
      obtain ⟨core, rest, mid, hfirst, hrest, rfl⟩ := Tree.exists_of_meanings_cons hmeaning
      obtain ⟨rfl, rfl⟩ := eq_of_meaning_literal hmode hfirst
      obtain ⟨groups, hparts, hgroups⟩ := ih hmode hknown hrest
      exact ⟨groups, .char hparts, hgroups⟩
  | @reference named before after name body pieces trees hbody hnew hbefore hinside _ ih =>
      obtain ⟨core, rest, mid, hfirst, hrest, rfl⟩ := Tree.exists_of_meanings_cons hmeaning
      obtain ⟨inner, behind, hinner, rfl, rfl⟩ := Tree.exists_of_meaning_group hfirst
      have hinsideMode : (c.inside (groupKind named name)).mode = {} := by
        rw [Context.mode_inside, flagsOf_groupKind, hmode]
        rfl
      have hmatches : ∀ front word back, inner.Matches front word back →
          FragmentMatches tokens name front word back :=
        fun _ _ _ => hbody.fragmentMatches hinsideMode hinner
      have hnumbers := Tree.numbers_of_meaning body hinner
      obtain ⟨own, hown, hownNames⟩ := hnumbers.names
      by_cases hold : name ∈ named
      · have hkind : groupKind named name = .plain [] := if_pos (by simpa using hold)
        rw [hkind] at hown hnumbers ⊢
        have hown : behind.names = own ++ c.names := hown
        obtain ⟨groups, hparts, hgroups⟩ := ih (c := { behind with mode := c.mode }) hmode
          (fun entry hentry => by
            have hentry : entry ∈ own ++ c.names := hown ▸ hentry
            rcases List.mem_append.mp hentry with hentry | hentry
            · exact hinside _ (hownNames entry hentry)
            · exact hbefore _ (hknown entry hentry)) hrest
        exact ⟨groups, .again hold hmatches hnumbers.next hnumbers.groups hparts, hgroups⟩
      · have hkind : groupKind named name = .named name := if_neg (by simpa using hold)
        rw [hkind] at hown hnumbers ⊢
        have hown : behind.names = own ++ (name, c.nextGroup) :: c.names := hown
        obtain ⟨hfresh, hmet⟩ := hnew hold
        obtain ⟨groups, hparts, hgroups⟩ := ih (c := { behind with mode := c.mode }) hmode
          (fun entry hentry => by
            have hentry : entry ∈ own ++ (name, c.nextGroup) :: c.names := hown ▸ hentry
            rcases List.mem_append.mp hentry with hentry | hentry
            · exact hinside _ (hownNames entry hentry)
            · rcases List.mem_cons.mp hentry with rfl | hentry
              · exact hmet
              · exact hbefore _ (hknown entry hentry)) hrest
        refine ⟨(name, c.nextGroup) :: groups, .first hold hmatches hnumbers.next
          (fun i hi => hnumbers.groups i hi) hparts, List.forall_mem_cons.mpr ⟨?_, hgroups⟩⟩
        -- what was named before the placeholder has none of its name
        obtain ⟨further, hfurther, -⟩ := (Tree.numbers_of_meanings trees hrest).names
        refine ⟨further ++ own, c.names, ?_, fun entry hentry (heq : entry.1 = name) => ?_⟩
        · rw [hfurther]
          show further ++ behind.names = _
          rw [hown, List.append_assoc]
        · exact hfresh (heq ▸ hknown entry hentry)

/-- A pattern is what the tree of its text means. -/
theorem exists_tree_of_ofChars? {cs : List Char} {pattern : Pattern}
    (h : Pattern.ofChars? cs = some pattern) :
    ∃ tree c, Tree.ofChars? cs = some tree ∧ tree.meaning {} = some (pattern.core, c) ∧
      pattern.names = c.names.reverse.filter fun entry => pattern.core.groups.contains entry.2 := by
  obtain ⟨tree, htree, h⟩ := Option.bind_eq_some_iff.mp h
  obtain ⟨⟨core, c⟩, hmeaning, h⟩ := Option.bind_eq_some_iff.mp h
  obtain rfl := Option.some.inj h
  exact ⟨tree, c, (Option.filter_eq_some_iff.mp htree).1, hmeaning, rfl⟩

/-- Groups are numbered from one on, and zero is left for the whole match. -/
theorem apart_of_ofChars? {cs : List Char} {pattern : Pattern}
    (h : Pattern.ofChars? cs = some pattern) : (Core.group 0 pattern.core).Apart := by
  obtain ⟨tree, c, -, hmeaning, -⟩ := exists_tree_of_ofChars? h
  refine ⟨fun hzero => ?_, Tree.apart_of_meaning tree hmeaning⟩
  exact absurd ((Tree.numbers_of_meaning tree hmeaning).groups 0 hzero).1 (Nat.not_succ_le_zero 0)

/-- Behind the start of a path the reader goes on with one part read. -/
theorem exists_loop_of_ofChars? {cs : List Char} {pattern : Pattern}
    (h : Pattern.ofChars? ('^' :: cs) = some pattern) :
    ∃ fuel tree c, loop fuel ⟨false, ⟨[], [.position .lineStart]⟩, [], []⟩ cs = some tree ∧
      tree.meaning {} = some (pattern.core, c) ∧
      pattern.names = c.names.reverse.filter fun entry => pattern.core.groups.contains entry.2 := by
  obtain ⟨tree, c, htree, hmeaning, hnames⟩ := exists_tree_of_ofChars? h
  obtain ⟨hread, -⟩ := Option.filter_eq_some_iff.mp htree
  obtain ⟨fuel, item, u, s, -, hitem, htake, hread⟩ := exists_turn hread rfl
  obtain ⟨rfl, rfl⟩ := Prod.mk.inj (Option.some.inj hitem)
  obtain rfl := Option.some.inj htake
  exact ⟨fuel, tree, c, hread, hmeaning, hnames⟩

/-- The start of a path and more parts behind it are matched one after the other. -/
theorem exists_cores_of_meaning {trees : List Tree} (hne : trees ≠ []) {core : Core} {c : Context}
    (h : (Tree.ofParts ([.position .lineStart] ++ trees)).meaning {} = some (core, c)) :
    ∃ cores, Tree.meanings trees {} = some (cores, c) ∧
      core = .sequence (.look .textStart :: cores) := by
  have hconcat : Tree.ofParts ([.position .lineStart] ++ trees) =
      .concat (.position .lineStart :: trees) := by
    obtain ⟨tree, others, rfl⟩ := List.exists_cons_of_ne_nil hne
    rfl
  rw [hconcat] at h
  obtain ⟨all, hall, rfl⟩ := Tree.exists_of_meaning_concat h
  obtain ⟨first, cores, mid, hfirst, hcores, rfl⟩ := Tree.exists_of_meanings_cons hall
  rw [Tree.meaning] at hfirst
  obtain ⟨rfl, rfl⟩ := Prod.mk.inj (Option.some.inj hfirst)
  exact ⟨cores, hcores, rfl⟩

/-- The pattern of a rule is made of its pieces, if every token's fragment makes
one group. -/
theorem madeOf_compilePattern {source : String} {pattern : Pattern}
    (h : compilePattern source tokens = .ok pattern)
    (hcloses : ∀ name ∈ mentions (Piece.scan source), ∀ fragment,
      tokens.get? name = some fragment → Tree.closes fragment.toList = true) :
    MadeOf (FragmentMatches tokens) (Piece.scan source) pattern := by
  obtain ⟨body, hbody, h⟩ := bind_eq_ok.mp h
  split at h
  · next found hfound =>
      obtain rfl := Except.ok.inj h
      obtain ⟨fuel, tree, c, hread, hmeaning, hnames⟩ := exists_loop_of_ofChars? hfound
      obtain ⟨trees, htrees, rfl⟩ := exists_spelt hbody (fun name => plain_of_mem_mentions)
        hcloses hread
      obtain ⟨cores, hcores, hcore⟩ := exists_cores_of_meaning htrees.ne_nil hmeaning
      obtain ⟨groups, hparts, hgroups⟩ := htrees.exists_parts rfl (by simp) hcores
      refine ⟨apart_of_ofChars? hfound, cores, groups, hparts, hcore, fun entry hentry => ?_⟩
      rw [hnames]
      refine (hgroups entry hentry).lookup ?_
      have hmem := hparts.index_mem_groups entry hentry
      rw [hcore, sequence_cons _ hparts.ne_nil, Core.groups, Core.groups, List.nil_append]
      exact List.contains_iff_mem.mpr hmem
  · simp at h

end Rule

end Trialbook

import Trialbook.Proofs.Groups
import Trialbook.Rule.Table

/-!
# What a spelled-out rule captures

The pattern of a rule is its text with something in place of every placeholder,
between the two ends of a path (`Rule.Parts`). So a path that it matches is the text
of the rule again, with words in place of the placeholders, and each word is something
that the token's fragment matches (`Rule.Carries`).

The first placeholder of a name is a group. Its word is what the group holds in the
end (`Rule.Parts.exists_carries`), for no group of its number comes later. If no name
comes twice, the captured words are all words, and put in place of the placeholders
they give the path again (`Rule.Carries.flatMap_renderPiece`). When the groups stand
for fragments without groups of their own, they are numbered from one on
(`Rule.render_of_search?`).
-/

namespace Trialbook

open Pattern

namespace Rule

/-- The names of the placeholders. -/
def mentions : List Piece → List String
  | [] => []
  | .char _ :: rest => mentions rest
  | .reference name :: rest => name :: mentions rest

/-! ## Words in place of placeholders -/

/-- What stands between `before` and the end of a text, piece by piece: each character
is itself, and each placeholder is a word that fits there. The words are listed with
the names. -/
inductive Carries (fits : String → List Char → List Char → List Char → Prop) :
    List Char → List Piece → List Char → List (String × List Char) → Prop
  | done {before : List Char} : Carries fits before [] [] []
  | char {before : List Char} {c : Char} {pieces : List Piece} {text : List Char}
      {carried : List (String × List Char)}
      (others : Carries fits (c :: before) pieces text carried) :
      Carries fits before (.char c :: pieces) (c :: text) carried
  | reference {before word : List Char} {name : String} {pieces : List Piece} {text : List Char}
      {carried : List (String × List Char)} (hword : fits name before word text)
      (others : Carries fits (word.reverse ++ before) pieces text carried) :
      Carries fits before (.reference name :: pieces) (word ++ text) ((name, word) :: carried)

namespace Carries

variable {fits : String → List Char → List Char → List Char → Prop} {before text : List Char}
  {pieces : List Piece} {carried : List (String × List Char)}

theorem map_fst (h : Carries fits before pieces text carried) :
    carried.map Prod.fst = mentions pieces := by
  induction h with
  | done => rfl
  | char _ ih => exact ih
  | reference _ _ ih => exact congrArg _ ih

/-- The first word for a name stands at its first placeholder and fits there. -/
theorem exists_lookup (h : Carries fits before pieces text carried) {name : String}
    (hname : name ∈ mentions pieces) :
    ∃ word front back, carried.lookup name = some word ∧ fits name front word back := by
  induction h with
  | done => simp [mentions] at hname
  | char _ ih => exact ih hname
  | @reference before word other pieces text carried hword _ ih =>
      by_cases hother : name = other
      · subst hother
        exact ⟨word, before, text, by simp, hword⟩
      · obtain ⟨found, front, back, hfound, hfits⟩ :=
          ih ((List.mem_cons.mp hname).resolve_left hother)
        refine ⟨found, front, back, ?_, hfits⟩
        rw [List.lookup_cons, beq_eq_false_iff_ne.mpr hother, hfound]

/-- Pieces with the words that a text carries for them are the text, if no name comes
twice. -/
theorem flatMap_renderPiece (h : Carries fits before pieces text carried)
    (hdistinct : (mentions pieces).Nodup) {captured : String → Option String}
    (hcaptured : ∀ name ∈ mentions pieces,
      captured name = (carried.lookup name).map String.ofList) :
    pieces.flatMap (Template.renderPiece captured) = text := by
  induction h with
  | done => rfl
  | char _ ih => exact congrArg _ (ih hdistinct hcaptured)
  | @reference _ word name pieces text carried _ _ ih =>
      obtain ⟨hnew, hdistinct⟩ := List.nodup_cons.mp hdistinct
      have hfirst : captured name = some (String.ofList word) := by
        simpa using hcaptured name List.mem_cons_self
      have hothers : ∀ other ∈ mentions pieces,
          captured other = (carried.lookup other).map String.ofList := by
        intro other hother
        have hne : (other == name) = false := beq_eq_false_iff_ne.mpr fun heq => hnew (heq ▸ hother)
        rw [hcaptured other (List.mem_cons_of_mem _ hother), List.lookup_cons, hne]
      rw [List.flatMap_cons, ih hdistinct hothers, Template.renderPiece, hfirst]
      exact congrArg (· ++ text) String.toList_ofList

end Carries

/-! ## What the pieces match -/

/-- What pieces match, one after the other, up to the end of the text: every
character itself and every placeholder words that fit. The first placeholder of a
name is a group, unless the name is already known, and these groups are listed. They
are numbered from an index on, those inside of a group behind it. -/
inductive Parts (fits : String → List Char → List Char → List Char → Prop) :
    Nat → List String → List Piece → List Core → List (String × Nat) → Prop
  | done {index : Nat} {known : List String} : Parts fits index known [] [.look .textEnd] []
  | char {index : Nat} {known : List String} {c : Char} {pieces : List Piece} {cores : List Core}
      {groups : List (String × Nat)} (others : Parts fits index known pieces cores groups) :
      Parts fits index known (.char c :: pieces) (.set (.single c) :: cores) groups
  | first {index next : Nat} {known : List String} {name : String} {core : Core}
      {pieces : List Piece} {cores : List Core} {groups : List (String × Nat)}
      (hnew : name ∉ known)
      (hfits : ∀ before word behind, core.Matches before word behind → fits name before word behind)
      (hnext : index < next) (hinner : ∀ i ∈ core.groups, index < i ∧ i < next)
      (others : Parts fits next (name :: known) pieces cores groups) :
      Parts fits index known (.reference name :: pieces) (.group index core :: cores)
        ((name, index) :: groups)
  | again {index next : Nat} {known : List String} {name : String} {core : Core}
      {pieces : List Piece} {cores : List Core} {groups : List (String × Nat)}
      (hold : name ∈ known)
      (hfits : ∀ before word behind, core.Matches before word behind → fits name before word behind)
      (hnext : index ≤ next) (hinner : ∀ i ∈ core.groups, index ≤ i ∧ i < next)
      (others : Parts fits next (name :: known) pieces cores groups) :
      Parts fits index known (.reference name :: pieces) (core :: cores) groups

/-- By the log, each of the groups holds the first word that is carried for its name. -/
def HoldFirst (groups : List (String × Nat)) (carried : List (String × List Char))
    (log : List (Nat × List Char)) : Prop :=
  ∀ entry ∈ groups, ∃ word, carried.lookup entry.1 = some word ∧ log.lookup entry.2 = some word

theorem sequence_cons (core : Core) {cores : List Core} (h : cores ≠ []) :
    Core.sequence (core :: cores) = .cat core (.sequence cores) := by
  cases cores with
  | nil => exact absurd rfl h
  | cons next rest => rfl

theorem eq_of_contains_single {c d : Char} (h : (CharSet.single c).contains d.toNat = true) :
    d = c := by
  simp only [CharSet.single, CharSet.range, CharSet.contains, Unicode.Ranges.contains] at h
  split at h
  · simp at h
  · have hle : d.toNat ≤ c.toNat := by simpa using h
    exact Char.toNat_inj.mp (by omega)

namespace Parts

variable {fits : String → List Char → List Char → List Char → Prop} {index : Nat}
  {known : List String} {pieces : List Piece} {cores : List Core} {groups : List (String × Nat)}

theorem ne_nil (h : Parts fits index known pieces cores groups) : cores ≠ [] := by
  cases h <;> exact List.cons_ne_nil _ _

theorem le_of_mem_groups (h : Parts fits index known pieces cores groups) :
    ∀ i ∈ (Core.sequence cores).groups, index ≤ i := by
  induction h with
  | done => simp [Core.sequence, Core.groups]
  | char others ih =>
      rw [sequence_cons _ others.ne_nil, Core.groups, Core.groups, List.nil_append]
      exact ih
  | first _ _ hnext hinner others ih =>
      rw [sequence_cons _ others.ne_nil, Core.groups, Core.groups]
      intro i hi
      rcases List.mem_append.mp hi with hi | hi
      · rcases List.mem_cons.mp hi with rfl | hi
        · exact Nat.le_refl i
        · exact Nat.le_of_lt (hinner i hi).1
      · exact Nat.le_trans (Nat.le_of_lt hnext) (ih i hi)
  | again _ _ hnext hinner others ih =>
      rw [sequence_cons _ others.ne_nil, Core.groups]
      intro i hi
      rcases List.mem_append.mp hi with hi | hi
      · exact (hinner i hi).1
      · exact Nat.le_trans hnext (ih i hi)

theorem index_mem_groups (h : Parts fits index known pieces cores groups) :
    ∀ entry ∈ groups, entry.2 ∈ (Core.sequence cores).groups := by
  induction h with
  | done => simp
  | char others ih =>
      rw [sequence_cons _ others.ne_nil, Core.groups, Core.groups, List.nil_append]
      exact ih
  | first _ _ _ _ others ih =>
      rw [sequence_cons _ others.ne_nil, Core.groups, Core.groups]
      intro entry hentry
      rcases List.mem_cons.mp hentry with rfl | hentry
      · exact List.mem_append_left _ List.mem_cons_self
      · exact List.mem_append_right _ (ih entry hentry)
  | again _ _ _ _ others ih =>
      rw [sequence_cons _ others.ne_nil, Core.groups]
      exact fun entry hentry => List.mem_append_right _ (ih entry hentry)

theorem notMem_known (h : Parts fits index known pieces cores groups) :
    ∀ entry ∈ groups, entry.1 ∉ known := by
  induction h with
  | done => simp
  | char _ ih => exact ih
  | first hnew _ _ _ _ ih =>
      exact List.forall_mem_cons.mpr
        ⟨hnew, fun entry hentry hmem => ih entry hentry (List.mem_cons_of_mem _ hmem)⟩
  | again _ _ _ _ _ ih =>
      exact fun entry hentry hmem => ih entry hentry (List.mem_cons_of_mem _ hmem)

/-- Every name has its group, unless it was known before. -/
theorem exists_group (h : Parts fits index known pieces cores groups) {name : String}
    (hname : name ∈ mentions pieces) (hnew : name ∉ known) : ∃ i, (name, i) ∈ groups := by
  induction h with
  | done => simp [mentions] at hname
  | char _ ih => exact ih hname hnew
  | @first index _ _ other _ _ _ _ _ _ _ _ _ ih =>
      by_cases hother : name = other
      · exact ⟨index, hother ▸ List.mem_cons_self⟩
      · obtain ⟨i, hi⟩ := ih ((List.mem_cons.mp hname).resolve_left hother) (by simp [hother, hnew])
        exact ⟨i, List.mem_cons_of_mem _ hi⟩
  | @again _ _ _ other _ _ _ _ hold _ _ _ _ ih =>
      have hother : name ≠ other := fun heq => hnew (heq ▸ hold)
      exact ih ((List.mem_cons.mp hname).resolve_left hother) (by simp [hother, hnew])

/-- More words in front, for a name that has no group among these, and an older log. -/
theorem holdFirst_cons {name : String} (h : Parts fits index (name :: known) pieces cores groups)
    {carried : List (String × List Char)} {log : List (Nat × List Char)}
    (hgroups : HoldFirst groups carried log) (word : List Char) (older : List (Nat × List Char)) :
    HoldFirst groups ((name, word) :: carried) (log ++ older) := by
  intro entry hentry
  obtain ⟨found, hfound, hlog⟩ := hgroups entry hentry
  have hne : (entry.1 == name) = false := beq_eq_false_iff_ne.mpr fun heq =>
    h.notMem_known entry hentry (heq ▸ List.mem_cons_self)
  refine ⟨found, by rw [List.lookup_cons, hne, hfound], ?_⟩
  rw [List.lookup_append, hlog]
  rfl

/-- Pieces that are matched up to the end of a text carry words there, and the listed
groups hold the first words. -/
theorem exists_carries_of_takes (h : Parts fits index known pieces cores groups)
    {before text behind : List Char} {log : List (Nat × List Char)}
    (htakes : (Core.sequence cores).Takes before text behind log) :
    behind = [] ∧ ∃ carried, Carries fits before pieces text carried ∧
      HoldFirst groups carried log := by
  induction h generalizing before text behind log with
  | done =>
      cases htakes with
      | look hend => exact ⟨Core.holds_textEnd.mp hend, [], .done, by simp [HoldFirst]⟩
  | char others ih =>
      rw [sequence_cons _ others.ne_nil] at htakes
      cases htakes with
      | cat hfirst hrest =>
          cases hfirst with
          | set hd =>
              obtain rfl := eq_of_contains_single hd
              obtain ⟨rfl, carried, hcarries, hgroups⟩ := ih hrest
              rw [List.append_nil]
              exact ⟨rfl, carried, .char hcarries, hgroups⟩
  | @first index next known name core _ _ _ hnew hfits hnext hinner others ih =>
      rw [sequence_cons _ others.ne_nil] at htakes
      cases htakes with
      | @cat _ _ _ word _ _ _ later hfirst hrest =>
          cases hfirst with
          | group hword =>
              obtain ⟨rfl, carried, hcarries, hgroups⟩ := ih hrest
              rw [List.append_nil] at hword
              refine ⟨rfl, _, .reference (hfits _ _ _ hword.toMatches) hcarries,
                List.forall_mem_cons.mpr ⟨⟨word, by simp, ?_⟩, others.holdFirst_cons hgroups _ _⟩⟩
              -- what comes behind are groups of higher number
              have hlater : later.lookup index = none := hrest.lookup_eq_none fun hmem =>
                absurd (others.le_of_mem_groups index hmem) (Nat.not_le_of_lt hnext)
              rw [List.lookup_append, hlater]
              simp
  | again hold hfits hnext hinner others ih =>
      rw [sequence_cons _ others.ne_nil] at htakes
      cases htakes with
      | cat hword hrest =>
          obtain ⟨rfl, carried, hcarries, hgroups⟩ := ih hrest
          rw [List.append_nil] at hword
          exact ⟨rfl, _, .reference (hfits _ _ _ hword.toMatches) hcarries,
            others.holdFirst_cons hgroups _ _⟩

end Parts

/-- A pattern is made of the pieces of a rule, between the two ends of a path, and the
name of each first placeholder stands for its group. -/
structure MadeOf (fits : String → List Char → List Char → List Char → Prop)
    (pieces : List Piece) (pattern : Pattern) : Prop where
  apart : (Core.group 0 pattern.core).Apart
  parts : ∃ cores groups, Parts fits 1 [] pieces cores groups ∧
    pattern.core = .sequence (.look .textStart :: cores) ∧
    ∀ entry ∈ groups, pattern.names.lookup entry.1 = some entry.2

/-- A path that a pattern made of pieces matches, it matches whole. The path carries
words for the placeholders, and the group of a name holds the first word for it. -/
theorem MadeOf.exists_carries {fits : String → List Char → List Char → List Char → Prop}
    {pieces : List Piece} {pattern : Pattern} (h : MadeOf fits pieces pattern) {path : String}
    {captures : Captures} (hsearch : pattern.search? path = some captures) :
    ∃ carried log, Carries fits [] pieces path.toList carried ∧
      (Core.group 0 pattern.core).Takes [] path.toList [] log ∧
      (∀ name, captures.named? name = (pattern.held? log name).map String.ofList) ∧
      ∀ name ∈ mentions pieces, pattern.held? log name = carried.lookup name := by
  obtain ⟨cores, groups, hparts, hcore, hnames⟩ := h.parts
  obtain ⟨before, text, behind, log, htext, htakes, -, hnamed⟩ :=
    Pattern.takes_of_search? h.apart hsearch
  have hwhole := htakes
  rw [hcore, sequence_cons _ hparts.ne_nil] at htakes
  cases htakes with
  | group htakes =>
      cases htakes with
      | @cat _ _ _ _ text _ _ log hfirst hrest =>
          cases hfirst with
          | look hstart =>
              obtain rfl := Core.holds_textStart.mp hstart
              obtain ⟨rfl, carried, hcarries, hgroups⟩ := hparts.exists_carries_of_takes hrest
              obtain rfl : path.toList = text := by simpa using htext.symm
              refine ⟨carried, _, hcarries, hwhole, hnamed, fun name hname => ?_⟩
              obtain ⟨index, hindex⟩ := hparts.exists_group hname (by simp)
              obtain ⟨word, hword, hlog⟩ := hgroups _ hindex
              -- group zero is the whole match and none of the listed groups
              have hne : (index == 0) = false := beq_eq_false_iff_ne.mpr fun heq =>
                absurd (hparts.le_of_mem_groups _ (hparts.index_mem_groups _ hindex))
                  (by simp [heq])
              rw [Pattern.held?, hnames _ hindex, hword, Option.bind_some, List.lookup_cons, hne,
                List.append_nil]
              exact hlog

/-! ## Fragments without groups -/

/-- The placeholders with the numbers of their groups. -/
def groupNames : Nat → List Piece → List (String × Nat)
  | _, [] => []
  | index, .char _ :: rest => groupNames index rest
  | index, .reference name :: rest => (name, index) :: groupNames (index + 1) rest

/-- What the pieces match, one after the other, up to the end of the text. -/
def partCores (fragment : String → Core) : Nat → List Piece → List Core
  | _, [] => [.look .textEnd]
  | index, .char c :: rest => .set (.single c) :: partCores fragment index rest
  | index, .reference name :: rest =>
      .group index (fragment name) :: partCores fragment (index + 1) rest

/-- The pattern of a rule's pieces, given what the tokens stand for. -/
def spelledOut (fragment : String → Core) (pieces : List Piece) : Pattern :=
  ⟨.sequence (.look .textStart :: partCores fragment 1 pieces), groupNames 1 pieces⟩

variable {fragment : String → Core}

theorem map_groupNames (index : Nat) (pieces : List Piece) :
    (groupNames index pieces).map Prod.fst = mentions pieces := by
  induction pieces generalizing index with
  | nil => rfl
  | cons piece rest ih =>
      cases piece with
      | char c => exact ih index
      | reference name => rw [groupNames, mentions, List.map_cons, ih]

theorem partCores_ne_nil (fragment : String → Core) (index : Nat) (pieces : List Piece) :
    partCores fragment index pieces ≠ [] := by
  unfold partCores
  split <;> exact List.cons_ne_nil _ _

theorem parts_partCores (hplain : ∀ name, (fragment name).groups = []) (index : Nat)
    {known : List String} {pieces : List Piece} (hdistinct : (mentions pieces).Nodup)
    (hnew : ∀ name ∈ mentions pieces, name ∉ known) :
    Parts (fun name => (fragment name).Matches) index known pieces
      (partCores fragment index pieces) (groupNames index pieces) := by
  induction pieces generalizing index known with
  | nil => exact .done
  | cons piece rest ih =>
      cases piece with
      | char c => exact .char (ih index hdistinct hnew)
      | reference name =>
          obtain ⟨hfirst, hdistinct⟩ := List.nodup_cons.mp hdistinct
          refine .first (hnew name List.mem_cons_self) (fun _ _ _ => id) (Nat.lt_succ_self index)
            (by simp [hplain]) (ih (index + 1) hdistinct fun other hother hmem => ?_)
          rcases List.mem_cons.mp hmem with rfl | hmem
          · exact hfirst hother
          · exact hnew other (List.mem_cons_of_mem _ hother) hmem

theorem apart_of_mem_partCores (hplain : ∀ name, (fragment name).groups = []) {index : Nat}
    {pieces : List Piece} : ∀ core ∈ partCores fragment index pieces, core.Apart := by
  induction pieces generalizing index with
  | nil => simp [partCores, Core.Apart]
  | cons piece rest ih =>
      cases piece with
      | char c => exact List.forall_mem_cons.mpr ⟨trivial, ih⟩
      | reference name =>
          exact List.forall_mem_cons.mpr
            ⟨⟨by simp [hplain], Core.apart_of_groups_eq_nil (hplain name)⟩, ih⟩

theorem lookup_groupNames {index : Nat} {pieces : List Piece} (hdistinct : (mentions pieces).Nodup)
    {entry : String × Nat} (hentry : entry ∈ groupNames index pieces) :
    (groupNames index pieces).lookup entry.1 = some entry.2 := by
  rw [← map_groupNames index] at hdistinct
  obtain ⟨front, back, hsplit⟩ := List.append_of_mem hentry
  rw [hsplit, List.map_append, List.map_cons, List.nodup_append] at hdistinct
  rw [hsplit, List.lookup_eq_some_iff]
  refine ⟨front, back, rfl, fun other hother => ?_⟩
  have hne := hdistinct.2.2 other.1 (List.mem_map_of_mem hother) entry.1 List.mem_cons_self
  simpa using hne.symm

theorem madeOf_spelledOut (hplain : ∀ name, (fragment name).groups = []) {pieces : List Piece}
    (hdistinct : (mentions pieces).Nodup) :
    MadeOf (fun name => (fragment name).Matches) pieces (spelledOut fragment pieces) := by
  have hparts := parts_partCores hplain 1 hdistinct (by simp : ∀ name ∈ mentions pieces, name ∉ [])
  refine ⟨⟨fun hmem => ?_, ?_⟩, _, _, hparts, rfl, fun _ => lookup_groupNames hdistinct⟩
  · rw [spelledOut, sequence_cons _ hparts.ne_nil, Core.groups, Core.groups,
      List.nil_append] at hmem
    exact absurd (hparts.le_of_mem_groups 0 hmem) (by simp)
  · refine (Core.Made.sequence _).apart (List.forall_mem_cons.mpr ⟨trivial, ?_⟩)
    exact apart_of_mem_partCores hplain

/-- A word is captured for the token, and the token's fragment matches it. -/
def Caught (fragment : String → Core) (captured : String → Option String) (name : String) :
    Prop :=
  ∃ word before behind, captured name = some word ∧
    (fragment name).Matches before word.toList behind

/-- A path that a spelled-out rule matches is the rule's text with the captured
words for its placeholders. -/
theorem render_of_search? (hplain : ∀ name, (fragment name).groups = []) {pieces : List Piece}
    (hdistinct : (mentions pieces).Nodup) {path : String} {captures : Captures}
    (h : (spelledOut fragment pieces).search? path = some captures) (append : Bool) :
    Template.render ⟨append, pieces⟩ captures.named? = path ∧
      ∀ name ∈ mentions pieces, Caught fragment captures.named? name := by
  obtain ⟨carried, log, hcarries, -, hnamed, hheld⟩ :=
    (madeOf_spelledOut hplain hdistinct).exists_carries h
  have hcaptured : ∀ name ∈ mentions pieces,
      captures.named? name = (carried.lookup name).map String.ofList := fun name hname => by
    rw [hnamed, hheld name hname]
  refine ⟨?_, fun name hname => ?_⟩
  · rw [Template.render, hcarries.flatMap_renderPiece hdistinct hcaptured, String.ofList_toList]
  · obtain ⟨word, front, back, hword, hfits⟩ := hcarries.exists_lookup hname
    refine ⟨String.ofList word, front, back, by rw [hcaptured name hname, hword]; rfl, ?_⟩
    rwa [String.toList_ofList]

end Rule

end Trialbook

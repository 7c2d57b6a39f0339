import Trialbook.Proofs.Pass
import Trialbook.Proofs.Paths
import Trialbook.Proofs.Spelled

/-!
# Rules made of segments

Where every placeholder of a rule is a whole segment and no fragment matches a
dot, a rule says what it says segment by segment. A path that it matches has as
many segments as the rule, a fixed one is the rule's own, and the others are
words of their tokens. The same goes for the paths that it moves to.

That makes it a question for a list of segments whether a path that one rule
writes can be matched by another. `Shape.meets` answers it by comparing the two
segment by segment. It says yes to two placeholders without a look at what they
stand for, so it can be wrong about a match, but not about there being none.
-/

namespace Trialbook

open Pattern

namespace Rule

/-! ## Fragments -/

/-- What a token stands for: one of several words, characters of one set, or a
character of one set followed by any number of another. -/
inductive Fragment where
  | oneOf (first : String) (others : List String)
  | many (points : CharSet)
  | run (first rest : CharSet)
  deriving DecidableEq, Repr

/-- A text as a pattern. -/
def literal (cs : List Char) : Core := .sequence (cs.map fun c => .set (.single c))

namespace Fragment

def core : Fragment → Core
  | oneOf first others => .choice ((first :: others).map fun word => literal word.toList)
  | many points => .plus true (.set points)
  | run first rest => .cat (.set first) (.loop true (.set rest))

/-- Whether the fragment matches the word. -/
def accepts : Fragment → String → Bool
  | oneOf first others, word => (first :: others).contains word
  | many points, word => !word.isEmpty && word.toList.all fun c => points.contains c.toNat
  | run first rest, word =>
    match word.toList with
    | [] => false
    | c :: cs => first.contains c.toNat && cs.all fun d => rest.contains d.toNat

/-- Whether no word of the fragment has a dot. -/
def isDotless : Fragment → Bool
  | oneOf first others => (first :: others).all fun word => decide (Path.Dotless word)
  | many points => !points.contains '.'.toNat
  | run first rest => !first.contains '.'.toNat && !rest.contains '.'.toNat

end Fragment

theorem groups_sequence {cores : List Core} (h : ∀ core ∈ cores, core.groups = []) :
    (Core.sequence cores).groups = [] := by
  induction cores with
  | nil => rfl
  | cons core rest ih =>
      by_cases hrest : rest = []
      · subst hrest
        exact h core List.mem_cons_self
      · rw [sequence_cons _ hrest, Core.groups, h core List.mem_cons_self,
          ih fun other hother => h other (List.mem_cons_of_mem _ hother)]
        rfl

theorem groups_choice {cores : List Core} (h : ∀ core ∈ cores, core.groups = []) :
    (Core.choice cores).groups = [] := by
  induction cores with
  | nil => rfl
  | cons core rest ih =>
      cases rest with
      | nil => exact h core List.mem_cons_self
      | cons next rest =>
          rw [Core.choice.eq_3 _ _ (by simp), Core.groups, h core List.mem_cons_self,
            ih fun other hother => h other (List.mem_cons_of_mem _ hother)]
          rfl

theorem eq_of_matches_literal {cs before text behind : List Char}
    (h : (literal cs).Matches before text behind) : text = cs := by
  induction cs generalizing before text with
  | nil =>
      cases h
      rfl
  | cons c cs ih =>
      by_cases hcs : cs = []
      · subst hcs
        cases h with
        | set hc => rw [eq_of_contains_single hc]
      · rw [literal, List.map_cons, sequence_cons _ (by simpa using hcs)] at h
        cases h with
        | cat hfirst hrest =>
            cases hfirst with
            | set hc => rw [eq_of_contains_single hc, ih hrest]; rfl

theorem exists_of_matches_choice {core : Core} {cores : List Core}
    {before text behind : List Char}
    (h : (Core.choice (core :: cores)).Matches before text behind) :
    ∃ branch ∈ core :: cores, branch.Matches before text behind := by
  induction cores generalizing core with
  | nil => exact ⟨core, List.mem_cons_self, h⟩
  | cons next rest ih =>
      cases h with
      | altFirst h => exact ⟨core, List.mem_cons_self, h⟩
      | altSecond h =>
          obtain ⟨branch, hbranch, hmatches⟩ := ih h
          exact ⟨branch, List.mem_cons_of_mem _ hbranch, hmatches⟩

theorem all_of_matches_loop {greedy : Bool} {points : CharSet} {before text behind : List Char}
    (h : (Core.loop greedy (.set points)).Matches before text behind) :
    text.all (fun c => points.contains c.toNat) = true := by
  generalize hcore : Core.loop greedy (.set points) = core at h
  induction h with
  | loopDone => rfl
  | loopMore hbody _ _ ih =>
      obtain ⟨-, rfl⟩ := Core.loop.inj hcore
      cases hbody with
      | set hc => rw [List.all_append, ih hcore]; simp [hc]
  | empty | set | look | group | cat | altFirst | altSecond | plus => simp at hcore

namespace Fragment

theorem accepts_of_matches {f : Fragment} {word : String} {before behind : List Char}
    (h : f.core.Matches before word.toList behind) : f.accepts word = true := by
  cases f with
  | oneOf first others =>
      obtain ⟨branch, hbranch, hmatches⟩ := exists_of_matches_choice h
      rw [← List.map_cons (f := fun word : String => literal word.toList)] at hbranch
      obtain ⟨listed, hlisted, rfl⟩ := List.mem_map.mp hbranch
      have heq : word = listed := String.toList_inj.mp (eq_of_matches_literal hmatches)
      rw [accepts, heq]
      exact List.contains_iff_mem.mpr hlisted
  | many points =>
      rw [core] at h
      generalize hcs : word.toList = cs at h
      cases h with
      | plus hbody hagain =>
          cases hbody with
          | set hc =>
              have hne : word ≠ "" := fun hempty => by simp [hempty] at hcs
              simp [accepts, hcs, hc, hne, all_of_matches_loop hagain]
  | run first rest =>
      rw [core] at h
      generalize hcs : word.toList = cs at h
      cases h with
      | cat hfirst hrest =>
          cases hfirst with
          | set hc =>
              rw [accepts, hcs]
              simp [hc, all_of_matches_loop hrest]

theorem dotless_of_accepts {f : Fragment} (hf : f.isDotless = true) {word : String}
    (h : f.accepts word = true) : Path.Dotless word := by
  cases f with
  | oneOf first others =>
      have hmem : word ∈ first :: others := by simpa [accepts] using h
      exact of_decide_eq_true (List.all_eq_true.mp hf word hmem)
  | many points =>
      rw [isDotless, Bool.not_eq_true'] at hf
      rw [accepts, Bool.and_eq_true, List.all_eq_true] at h
      intro hdot
      rw [h.2 '.' hdot] at hf
      exact absurd hf (by decide)
  | run first rest =>
      simp only [isDotless, Bool.and_eq_true, Bool.not_eq_true'] at hf
      rw [accepts] at h
      split at h
      · simp at h
      · next c cs hcs =>
          rw [Bool.and_eq_true, List.all_eq_true] at h
          intro hdot
          rw [hcs] at hdot
          rcases List.mem_cons.mp hdot with rfl | hdot
          · rw [hf.1] at h
            exact absurd h.1 (by decide)
          · have hrest := h.2 '.' hdot
            rw [hf.2] at hrest
            exact absurd hrest (by decide)

theorem groups_core (f : Fragment) : f.core.groups = [] := by
  cases f with
  | oneOf first others =>
      refine groups_choice fun core hcore => ?_
      obtain ⟨word, -, rfl⟩ := List.mem_map.mp hcore
      refine groups_sequence fun core hcore => ?_
      obtain ⟨c, -, rfl⟩ := List.mem_map.mp hcore
      rfl
  | many | run => rfl

end Fragment

/-! ## Shapes -/

/-- A segment of a rule. -/
inductive Place where
  | fixed (text : String)
  | token (name : String)
  deriving DecidableEq, Repr

/-- The segments of a rule. -/
abbrev Shape := List Place

namespace Place

/-- A segment as it is written. -/
def ofText (text : String) : Place :=
  match text.toList with
  | '<' :: rest => token (String.ofList rest.dropLast)
  | _ => fixed text

def pieces : Place → List Piece
  | fixed text => text.toList.map .char
  | token name => [.reference name]

/-- The segment of a path that stands in the place. -/
def Stands (fragment : String → Fragment) (captured : String → Option String) :
    Place → String → Prop
  | fixed text, word => word = text
  | token name, word => captured name = some word ∧ (fragment name).accepts word = true

/-- Whether one segment can stand in both places. -/
def meets (fragment : String → Fragment) : Place → Place → Bool
  | fixed text, fixed other => text == other
  | fixed text, token name => (fragment name).accepts text
  | token name, fixed text => (fragment name).accepts text
  | token _, token _ => true

end Place

namespace Shape

/-- A rule as it is written. -/
def ofText (text : String) : Shape := (Path.segments text).map Place.ofText

def pieces : Shape → List Piece
  | [] => []
  | place :: rest =>
    match rest with
    | [] => place.pieces
    | _ :: _ => place.pieces ++ .char '.' :: pieces rest

/-- The names of the placeholders. -/
def names : Shape → List String
  | [] => []
  | .fixed _ :: rest => names rest
  | .token name :: rest => name :: names rest

/-- Whether one path can have both shapes. -/
def meets (fragment : String → Fragment) : Shape → Shape → Bool
  | [], [] => true
  | place :: rest, place' :: rest' => place.meets fragment place' && meets fragment rest rest'
  | _, _ => false

/-- The path has the shape, segment by segment. -/
def Fits (fragment : String → Fragment) (captured : String → Option String) (shape : Shape)
    (path : String) : Prop :=
  List.Forall₂ (Place.Stands fragment captured) shape (Path.segments path)

end Shape

variable {fragment : String → Fragment} {captured captured' : String → Option String}

namespace Place

theorem Stands.unique {place : Place} {word word' : String}
    (h : place.Stands fragment captured word) (h' : place.Stands fragment captured word') :
    word = word' := by
  cases place with
  | fixed text => rw [h, h']
  | token name => exact Option.some.inj (h.1.symm.trans h'.1)

theorem Stands.meets {place place' : Place} {word : String}
    (h : place.Stands fragment captured word) (h' : place'.Stands fragment captured' word) :
    place.meets fragment place' = true := by
  cases place with
  | fixed text =>
      cases place' with
      | fixed other => exact beq_iff_eq.mpr (h.symm.trans h')
      | token name => rw [Place.meets, ← h]; exact h'.2
  | token name =>
      cases place' with
      | fixed other => rw [Place.meets, ← h']; exact h.2
      | token _ => rfl

end Place

namespace Shape

theorem forall₂_meets {shape shape' : Shape} {words : List String}
    (h : List.Forall₂ (Place.Stands fragment captured) shape words)
    (h' : List.Forall₂ (Place.Stands fragment captured') shape' words) :
    shape.meets fragment shape' = true := by
  induction h generalizing shape' with
  | nil =>
      cases h'
      rfl
  | cons hplace _ ih =>
      cases h' with
      | cons hplace' hrest =>
          rw [meets, hplace.meets hplace', ih hrest]
          rfl

theorem head?_of_forall₂ {shape shape' : Shape} {words words' : List String}
    (h : List.Forall₂ (Place.Stands fragment captured) shape words)
    (h' : List.Forall₂ (Place.Stands fragment captured) shape' words')
    (hhead : shape.head? = shape'.head?) : words.head? = words'.head? := by
  cases h with
  | nil =>
      cases h' with
      | nil => rfl
      | cons => simp at hhead
  | cons hplace _ =>
      cases h' with
      | nil => simp at hhead
      | cons hplace' _ =>
          obtain rfl := Option.some.inj hhead
          exact congrArg some (hplace.unique hplace')

/-- A path has no two shapes that do not meet. -/
theorem Fits.meets {shape shape' : Shape} {path : String}
    (h : shape.Fits fragment captured path) (h' : shape'.Fits fragment captured' path) :
    shape.meets fragment shape' = true :=
  forall₂_meets h h'

theorem Fits.head?_segments {shape : Shape} {path text : String}
    (h : shape.Fits fragment captured path) (hhead : shape.head? = some (.fixed text)) :
    (Path.segments path).head? = some text := by
  rw [Fits] at h
  generalize Path.segments path = words at h
  cases h with
  | nil => simp at hhead
  | cons hplace _ =>
      obtain rfl := Option.some.inj hhead
      exact congrArg some hplace

end Shape

/-! ## Shapes and texts -/

/-- A word is captured for the token, and is one of the token's. -/
def Known (fragment : String → Fragment) (captured : String → Option String) (name : String) :
    Prop :=
  ∃ word, captured name = some word ∧ (fragment name).accepts word = true

theorem mentions_append (first second : List Piece) :
    mentions (first ++ second) = mentions first ++ mentions second := by
  induction first with
  | nil => rfl
  | cons piece rest ih => cases piece <;> simp [mentions, ih]

theorem mentions_chars (cs : List Char) : mentions (cs.map Piece.char) = [] := by
  induction cs with
  | nil => rfl
  | cons c cs ih => exact ih

theorem flatMap_renderPiece_chars (cs : List Char) :
    (cs.map Piece.char).flatMap (Template.renderPiece captured) = cs := by
  induction cs with
  | nil => rfl
  | cons c cs ih => rw [List.map_cons, List.flatMap_cons, ih]; rfl

theorem Place.exists_stands (hdotless : ∀ name, (fragment name).isDotless = true) {place : Place}
    (hfixed : ∀ text, place = .fixed text → Path.Dotless text)
    (hknown : ∀ name ∈ mentions place.pieces, Known fragment captured name) :
    ∃ word, place.pieces.flatMap (Template.renderPiece captured) = word.toList ∧
      Path.Dotless word ∧ place.Stands fragment captured word := by
  cases place with
  | fixed text => exact ⟨text, flatMap_renderPiece_chars _, hfixed text rfl, rfl⟩
  | token name =>
      obtain ⟨word, hcaptured, haccepts⟩ := hknown name List.mem_cons_self
      refine ⟨word, ?_, Fragment.dotless_of_accepts (hdotless name) haccepts, hcaptured, haccepts⟩
      rw [Place.pieces, List.flatMap_singleton, Template.renderPiece, hcaptured]

namespace Shape

theorem pieces_cons (place : Place) {rest : Shape} (h : rest ≠ []) :
    pieces (place :: rest) = place.pieces ++ .char '.' :: rest.pieces := by
  cases rest with
  | nil => exact absurd rfl h
  | cons next rest => rfl

theorem mentions_pieces (shape : Shape) : mentions shape.pieces = shape.names := by
  induction shape with
  | nil => rfl
  | cons place rest ih =>
      have hplace : mentions place.pieces ++ names rest = names (place :: rest) := by
        cases place with
        | fixed text => rw [Place.pieces, mentions_chars]; rfl
        | token name => rfl
      by_cases hrest : rest = []
      · subst hrest
        rw [← hplace]
        exact (List.append_nil _).symm
      · rw [pieces_cons _ hrest, mentions_append, mentions, ih, hplace]

theorem ofText_ne_nil (text : String) : ofText text ≠ [] := by
  simp [ofText, Path.segments_ne_nil]

theorem dotless_of_mem_ofText {text fixed : String} (h : Place.fixed fixed ∈ ofText text) :
    Path.Dotless fixed := by
  obtain ⟨segment, hsegment, hplace⟩ := List.mem_map.mp h
  rw [Place.ofText] at hplace
  split at hplace
  · simp at hplace
  · injection hplace with hplace
    rw [← hplace]
    exact Path.dotless_of_mem_segments hsegment

theorem forall₂_splitAt (hdotless : ∀ name, (fragment name).isDotless = true) {shape : Shape}
    (hshape : shape ≠ []) (hfixed : ∀ text, .fixed text ∈ shape → Path.Dotless text)
    (hknown : ∀ name ∈ mentions shape.pieces, Known fragment captured name) :
    List.Forall₂ (Place.Stands fragment captured) shape
      ((Path.splitAt '.' (shape.pieces.flatMap (Template.renderPiece captured))).map
        String.ofList) := by
  induction shape with
  | nil => exact absurd rfl hshape
  | cons place rest ih =>
      have hplace : ∀ text, place = .fixed text → Path.Dotless text := by
        rintro text rfl
        exact hfixed text List.mem_cons_self
      by_cases hrest : rest = []
      · subst hrest
        obtain ⟨word, hword, hdot, hstands⟩ := Place.exists_stands hdotless hplace hknown
        show List.Forall₂ _ [place] ((Path.splitAt '.' (place.pieces.flatMap _)).map _)
        rw [hword, Path.splitAt_of_notMem hdot, List.map_singleton, String.ofList_toList]
        exact .cons hstands .nil
      · rw [pieces_cons _ hrest, mentions_append] at hknown
        obtain ⟨word, hword, hdot, hstands⟩ := Place.exists_stands hdotless hplace
          fun name hname => hknown name (List.mem_append_left _ hname)
        have hothers := ih hrest (fun text htext => hfixed text (List.mem_cons_of_mem _ htext))
          fun name hname => hknown name (List.mem_append_right _ hname)
        rw [pieces_cons _ hrest, List.flatMap_append, List.flatMap_cons, hword]
        show List.Forall₂ _ _ ((Path.splitAt '.' (word.toList ++ '.' :: _)).map _)
        rw [Path.splitAt_append, Path.splitAt_of_notMem hdot, List.singleton_append,
          List.map_cons, String.ofList_toList]
        exact .cons hstands hothers

/-- A shape with words for its placeholders is a path of that shape. -/
theorem fits_render (hdotless : ∀ name, (fragment name).isDotless = true) {text : String}
    (hknown : ∀ name ∈ (ofText text).names, Known fragment captured name) (append : Bool) :
    (ofText text).Fits fragment captured
      (Template.render ⟨append, (ofText text).pieces⟩ captured) := by
  rw [← mentions_pieces] at hknown
  rw [Fits, Template.render, Path.segments, String.toList_ofList]
  exact forall₂_splitAt hdotless (ofText_ne_nil text) (fun _ => dotless_of_mem_ofText) hknown

end Shape

/-! ## Moves -/

/-- A rule whose placeholders are segments, as it is written. A plus sign in
front of a destination is told apart from it. -/
structure Move where
  source : String
  targets : List (Bool × String)
  deriving DecidableEq, Repr

namespace Move

/-- The rule. -/
def rule (fragment : String → Fragment) (m : Move) : Rule where
  source := m.source
  pattern := spelledOut (fun name => (fragment name).core) (Shape.ofText m.source).pieces
  destinations := m.targets.map fun target => ⟨target.1, (Shape.ofText target.2).pieces⟩

/-- Every placeholder has one group, and every destination knows its
placeholders and begins as the rule does. -/
def IsSound (m : Move) : Prop :=
  (Shape.ofText m.source).names.Nodup ∧
    ∀ target ∈ m.targets, (Shape.ofText target.2).head? = (Shape.ofText m.source).head? ∧
      ∀ name ∈ (Shape.ofText target.2).names, name ∈ (Shape.ofText m.source).names

instance (m : Move) : Decidable m.IsSound := by
  unfold IsSound
  infer_instance

theorem distinct {m : Move} (hm : m.IsSound) :
    (mentions (Shape.ofText m.source).pieces).Nodup := by
  rw [Shape.mentions_pieces]
  exact hm.1

section

variable (hdotless : ∀ name, (fragment name).isDotless = true) {m : Move} {path : String}
  {captures : Captures}

include hdotless

/-- A path that a rule matches has its shape. -/
theorem fits_source (hm : m.IsSound)
    (h : (m.rule fragment).pattern.search? path = some captures) :
    (Shape.ofText m.source).Fits fragment captures.named? path ∧
      ∀ name ∈ (Shape.ofText m.source).names, Known fragment captures.named? name := by
  obtain ⟨hrender, hcaught⟩ := render_of_search? (fun name => (fragment name).groups_core)
    (distinct hm) h false
  have hknown : ∀ name ∈ (Shape.ofText m.source).names,
      Known fragment captures.named? name := by
    intro name hname
    rw [← Shape.mentions_pieces] at hname
    obtain ⟨word, before, behind, hword, hmatches⟩ := hcaught name hname
    exact ⟨word, hword, Fragment.accepts_of_matches hmatches⟩
  refine ⟨?_, hknown⟩
  rw [← hrender]
  exact Shape.fits_render hdotless hknown false

/-- The paths that a rule moves to have the shapes of its destinations. -/
theorem fits_target (hm : m.IsSound)
    (h : (m.rule fragment).pattern.search? path = some captures) {target : Bool × String}
    (htarget : target ∈ m.targets) :
    (Shape.ofText target.2).Fits fragment captures.named?
      (Template.render ⟨target.1, (Shape.ofText target.2).pieces⟩ captures.named?) := by
  obtain ⟨-, hknown⟩ := fits_source hdotless hm h
  exact Shape.fits_render hdotless
    (fun name hname => hknown name ((hm.2 target htarget).2 name hname)) target.1

theorem head?_segments_target (hm : m.IsSound)
    (h : (m.rule fragment).pattern.search? path = some captures) {target : Bool × String}
    (htarget : target ∈ m.targets) :
    (Path.segments (Template.render ⟨target.1, (Shape.ofText target.2).pieces⟩
      captures.named?)).head? = (Path.segments path).head? := by
  exact Shape.head?_of_forall₂ (fits_target hdotless hm h htarget) (fits_source hdotless hm h).1
    (hm.2 target htarget).1

end

end Move

end Rule

namespace RuleSet

theorem mem_of_find? {rules : RuleSet} {path : String} {rule : Rule} {captures : Captures}
    (h : rules.find? path = some (rule, captures)) :
    rule ∈ rules ∧ rule.pattern.search? path = some captures := by
  induction rules with
  | nil => simp [find?] at h
  | cons first rest ih =>
      rw [find?] at h
      split at h
      · next found hfound =>
          injection h with h
          obtain ⟨rfl, rfl⟩ := Prod.mk.inj h
          exact ⟨List.mem_cons_self, hfound⟩
      · obtain ⟨hmem, hsearch⟩ := ih h
        exact ⟨List.mem_cons_of_mem _ hmem, hsearch⟩

end RuleSet

end Trialbook

import Trialbook.Proofs.Bundled
import Trialbook.Proofs.Dictionaries
import Trialbook.Proofs.Exhaustive

/-!
# Rules made of segments, as a function on segments

A shape reads the segments of a path one by one and binds the names of its
placeholders on the way (`Shape.bind?`), and a destination is filled in with what
they are bound to (`Shape.fill`). For rules made of segments this is all there is
to a pass: the places that a path is sent to are those of the first move whose
shape reads it (`Move.segments_placesOf`).

One half of that is what a match says about a path. The other is that there is a
match for every path that a shape reads, which takes a search that misses none.
-/

namespace Trialbook

open Pattern
open Text.Dictionary (lookup_of_nodup)

namespace Rule

variable {fragment : String → Fragment} {captured : String → Option String}

/-! ## What matches -/

theorem contains_single (c : Char) : (CharSet.single c).contains c.toNat = true := by
  simp [CharSet.single, CharSet.range, CharSet.contains, Unicode.Ranges.contains]

theorem matches_literal (cs before behind : List Char) :
    (literal cs).Matches before cs behind := by
  induction cs generalizing before with
  | nil => exact .empty
  | cons c cs ih =>
      have hfirst : ∀ behind, (Core.set (.single c)).Matches before [c] behind := fun behind =>
        .set (contains_single c)
      by_cases hcs : cs = []
      · subst hcs
        exact hfirst behind
      · rw [literal, List.map_cons, sequence_cons _ (by simpa using hcs)]
        exact .cat (hfirst _) (ih _)

theorem matches_choice {core : Core} {cores : List Core} (h : core ∈ cores)
    {before text behind : List Char} (hmatches : core.Matches before text behind) :
    (Core.choice cores).Matches before text behind := by
  induction cores with
  | nil => simp at h
  | cons first rest ih =>
      by_cases hrest : rest = []
      · subst hrest
        rw [List.mem_singleton.mp h] at hmatches
        exact hmatches
      · rw [Core.choice.eq_3 _ _ (by simpa using hrest)]
        rcases List.mem_cons.mp h with rfl | h
        · exact .altFirst hmatches
        · exact .altSecond (ih h)

theorem matches_loop {points : CharSet} {cs : List Char}
    (h : cs.all (fun c => points.contains c.toNat) = true) (before behind : List Char) :
    (Core.loop true (.set points)).Matches before cs behind := by
  induction cs generalizing before with
  | nil => exact .loopDone
  | cons c cs ih =>
      rw [List.all_cons, Bool.and_eq_true] at h
      exact .loopMore (.set h.1) (ih h.2 _)

theorem Fragment.matches_of_accepts {f : Fragment} {word : String} (h : f.accepts word = true)
    (before behind : List Char) : f.core.Matches before word.toList behind := by
  cases f with
  | oneOf first others =>
      have hmem : word ∈ first :: others := by simpa [accepts] using h
      have hlisted := List.mem_map_of_mem (f := fun w : String => literal w.toList) hmem
      exact matches_choice hlisted (matches_literal _ _ _)
  | many points =>
      rw [accepts, Bool.and_eq_true] at h
      obtain ⟨c, cs, hcs⟩ := List.exists_cons_of_ne_nil
        (mt String.toList_eq_nil_iff.mp (by simpa using h.1))
      rw [hcs, List.all_cons, Bool.and_eq_true] at h
      rw [hcs]
      exact .plus (.set h.2.1) (matches_loop h.2.2 _ _)
  | run first rest =>
      rw [accepts] at h
      split at h
      · simp at h
      · next c cs hcs =>
          rw [Bool.and_eq_true] at h
          rw [hcs]
          exact .cat (.set h.1) (matches_loop h.2 _ _)

/-- The parts of a rule match its text, with words of their tokens in place of
the placeholders. -/
theorem matches_partCores {pieces : List Piece}
    (hknown : ∀ name ∈ mentions pieces, Known fragment captured name) (index : Nat)
    (before : List Char) :
    (Core.sequence (partCores (fun name => (fragment name).core) index pieces)).Matches before
      (pieces.flatMap (Template.renderPiece captured)) [] := by
  induction pieces generalizing index before with
  | nil => exact .look rfl
  | cons piece rest ih =>
      have hne : ∀ index, partCores (fun name => (fragment name).core) index rest ≠ [] :=
        fun index => partCores_ne_nil _ index rest
      cases piece with
      | char c =>
          rw [partCores, sequence_cons _ (hne index)]
          exact .cat (.set (contains_single c)) (ih hknown index _)
      | reference name =>
          obtain ⟨word, hcaptured, haccepts⟩ := hknown name List.mem_cons_self
          have hword : Template.renderPiece captured (.reference name) = word.toList := by
            rw [Template.renderPiece, hcaptured]
          rw [partCores, sequence_cons _ (hne (index + 1)), List.flatMap_cons, hword]
          exact .cat (.group (Fragment.matches_of_accepts haccepts _ _))
            (ih (fun other hother => hknown other (List.mem_cons_of_mem _ hother)) _ _)

/-! ## Paths of a shape -/

namespace Shape

theorem known_of_forall₂ {shape : Shape} {words : List String}
    (h : List.Forall₂ (Place.Stands fragment captured) shape words) :
    ∀ name ∈ shape.names, Known fragment captured name := by
  induction h with
  | nil => simp [names]
  | @cons place word shape words hplace _ ih =>
      cases place with
      | fixed text => exact ih
      | token name =>
          intro other hother
          rcases List.mem_cons.mp hother with rfl | hother
          · exact ⟨word, hplace⟩
          · exact ih other hother

/-- A path that has a shape is the shape's text with the words of its
placeholders. -/
theorem Fits.flatMap_renderPiece {shape : Shape} {path : String}
    (h : shape.Fits fragment captured path) :
    shape.pieces.flatMap (Template.renderPiece captured) = path.toList := by
  have hplace : ∀ {place : Place} {word : String}, place.Stands fragment captured word →
      place.pieces.flatMap (Template.renderPiece captured) = word.toList := by
    intro place word hstands
    cases place with
    | fixed text => rw [hstands, Place.pieces, flatMap_renderPiece_chars]
    | token name =>
        rw [Place.pieces, List.flatMap_singleton, Template.renderPiece, hstands.1]
  rw [Fits] at h
  rw [← Path.ofSegments_segments path]
  generalize Path.segments path = words at h
  induction h with
  | nil => rfl
  | @cons place word shape words hstands hrest ih =>
      cases hrest with
      | nil => exact hplace hstands
      | cons =>
          rw [pieces_cons _ (List.cons_ne_nil _ _), List.flatMap_append, List.flatMap_cons,
            hplace hstands, ih, Path.ofSegments_cons (List.cons_ne_nil _ _)]
          simp [String.toList_append, Template.renderPiece]

end Shape

/-- A rule matches every path of its shape. -/
theorem Move.isSome_search?_of_fits {m : Move} {path : String}
    (h : (Shape.ofText m.source).Fits fragment captured path) :
    ((m.rule fragment).pattern.search? path).isSome = true := by
  have hknown := Shape.known_of_forall₂ h
  rw [← Shape.mentions_pieces] at hknown
  have hparts := matches_partCores hknown 1 []
  rw [h.flatMap_renderPiece] at hparts
  refine Pattern.isSome_search?_iff.mpr ⟨[], path.toList, [], by simp, ?_⟩
  rw [Move.rule, spelledOut, sequence_cons]
  · exact .cat (.look rfl) hparts
  · exact partCores_ne_nil _ 1 _

/-! ## Reading and filling in -/

namespace Shape

/-- What the placeholders of a shape stand for in a path with these segments, if
it is a path of the shape. -/
def bind? (fragment : String → Fragment) : Shape → List String → Option (List (String × String))
  | [], [] => some []
  | .fixed text :: shape, word :: words => if word = text then bind? fragment shape words else none
  | .token name :: shape, word :: words =>
    if (fragment name).accepts word then (bind? fragment shape words).map ((name, word) :: ·)
    else none
  | _, _ => none

/-- The segments of a shape whose placeholders stand for these words. -/
def fill (bound : List (String × String)) (shape : Shape) : List String :=
  shape.map fun place =>
    match place with
    | .fixed text => text
    | .token name => (bound.lookup name).getD ""

theorem forall₂_of_bind? {shape : Shape} {words : List String} {bound : List (String × String)}
    (h : shape.bind? fragment words = some bound)
    (hcaptured : ∀ entry ∈ bound, captured entry.1 = some entry.2) :
    List.Forall₂ (Place.Stands fragment captured) shape words := by
  induction shape generalizing words bound with
  | nil =>
      cases words with
      | nil => exact .nil
      | cons word words => simp [bind?] at h
  | cons place shape ih =>
      cases words with
      | nil => cases place <;> simp [bind?] at h
      | cons word words =>
          cases place with
          | fixed text =>
              rw [bind?] at h
              split at h
              · next hword => exact .cons hword (ih h hcaptured)
              · simp at h
          | token name =>
              rw [bind?] at h
              split at h
              · next haccepts =>
                  obtain ⟨others, hothers, rfl⟩ := Option.map_eq_some_iff.mp h
                  exact .cons ⟨hcaptured _ List.mem_cons_self, haccepts⟩
                    (ih hothers fun entry hentry => hcaptured entry (List.mem_cons_of_mem _ hentry))
              · simp at h

theorem exists_bind? {shape : Shape} {words : List String}
    (h : List.Forall₂ (Place.Stands fragment captured) shape words) :
    ∃ bound, shape.bind? fragment words = some bound ∧
      ∀ entry ∈ bound, captured entry.1 = some entry.2 := by
  induction h with
  | nil => exact ⟨[], rfl, by simp⟩
  | @cons place word shape words hstands _ ih =>
      obtain ⟨bound, hbound, hcaptured⟩ := ih
      cases place with
      | fixed text =>
          refine ⟨bound, ?_, hcaptured⟩
          rw [bind?, if_pos (show word = text from hstands), hbound]
      | token name =>
          refine ⟨(name, word) :: bound, ?_, ?_⟩
          · rw [bind?, if_pos hstands.2, hbound]
            rfl
          · intro entry hentry
            rcases List.mem_cons.mp hentry with rfl | hentry
            · exact hstands.1
            · exact hcaptured entry hentry

theorem map_fst_of_bind? {shape : Shape} {words : List String} {bound : List (String × String)}
    (h : shape.bind? fragment words = some bound) : bound.map Prod.fst = shape.names := by
  induction shape generalizing words bound with
  | nil =>
      cases words with
      | nil => rw [← Option.some.inj h]; rfl
      | cons word words => simp [bind?] at h
  | cons place shape ih =>
      cases words with
      | nil => cases place <;> simp [bind?] at h
      | cons word words =>
          cases place with
          | fixed text =>
              rw [bind?] at h
              split at h
              · exact ih h
              · simp at h
          | token name =>
              rw [bind?] at h
              split at h
              · obtain ⟨others, hothers, rfl⟩ := Option.map_eq_some_iff.mp h
                rw [List.map_cons, ih hothers, names]
              · simp at h

/-- The words that stand in a shape are those it is filled with. -/
theorem fill_of_forall₂ {shape : Shape} {words : List String} {bound : List (String × String)}
    (h : List.Forall₂ (Place.Stands fragment captured) shape words)
    (hbound : ∀ name ∈ shape.names, bound.lookup name = captured name) :
    shape.fill bound = words := by
  induction h with
  | nil => rfl
  | @cons place word shape words hstands _ ih =>
      cases place with
      | fixed text =>
          rw [fill, List.map_cons, ← fill, ih hbound]
          exact congrArg (· :: words) hstands.symm
      | token name =>
          rw [fill, List.map_cons, ← fill,
            ih fun other hother => hbound other (List.mem_cons_of_mem _ hother)]
          show (bound.lookup name).getD "" :: words = word :: words
          rw [hbound name List.mem_cons_self, hstands.1]
          rfl

theorem forall₂_fill {bound : List (String × String)} {shape : Shape}
    (h : ∀ name ∈ shape.names, Known fragment (fun name => bound.lookup name) name) :
    List.Forall₂ (Place.Stands fragment fun name => bound.lookup name) shape
      (shape.fill bound) := by
  induction shape with
  | nil => exact .nil
  | cons place shape ih =>
      cases place with
      | fixed text => exact .cons rfl (ih h)
      | token name =>
          obtain ⟨word, hword, haccepts⟩ := h name List.mem_cons_self
          replace hword : bound.lookup name = some word := hword
          refine .cons ⟨hword.trans ?_, ?_⟩
            (ih fun other hother => h other (List.mem_cons_of_mem _ hother))
          · simp [hword]
          · simpa [hword] using haccepts

/-- A shape filled in with what it was read from is that again. -/
theorem fill_of_bind? {shape : Shape} (hdistinct : shape.names.Nodup) {words : List String}
    {bound : List (String × String)} (h : shape.bind? fragment words = some bound) :
    shape.fill bound = words := by
  have hlookup := lookup_of_nodup (map_fst_of_bind? h ▸ hdistinct)
  exact fill_of_forall₂ (forall₂_of_bind? h hlookup) fun _ _ => rfl

end Shape

/-! ## Where paths are sent -/

/-- A move with its texts taken apart. -/
structure Lane where
  source : Shape
  targets : List (Shape × Bool)
  deriving DecidableEq, Repr

def Move.lane (m : Move) : Lane where
  source := Shape.ofText m.source
  targets := m.targets.map fun target => (Shape.ofText target.2, target.1)

/-- The places that a move sends a path to, by its segments, if it is for the
path at all. -/
def Lane.sends? (fragment : String → Fragment) (words : List String) (lane : Lane) :
    Option (List (List String × Bool)) :=
  (lane.source.bind? fragment words).map fun bound =>
    lane.targets.map fun target => (target.1.fill bound, target.2)

/-- The places of the first move for a path. A path without one stays where it
is. -/
def sends (fragment : String → Fragment) (lanes : List Lane) (words : List String) :
    List (List String × Bool) :=
  (lanes.findSome? (Lane.sends? fragment words)).getD [(words, false)]

/-- The words of a path and of the places that a move sends it to, by what its
placeholders stand for. -/
theorem Lane.exists_stands {lane : Lane} (hdistinct : lane.source.names.Nodup)
    (hknown : ∀ target ∈ lane.targets, ∀ name ∈ target.1.names, name ∈ lane.source.names)
    {words : List String} {places : List (List String × Bool)}
    (h : lane.sends? fragment words = some places) :
    ∃ captured, List.Forall₂ (Place.Stands fragment captured) lane.source words ∧
      ∀ place ∈ places, ∃ target ∈ lane.targets, place.2 = target.2 ∧
        List.Forall₂ (Place.Stands fragment captured) target.1 place.1 := by
  obtain ⟨bound, hbound, rfl⟩ := Option.map_eq_some_iff.mp h
  have hlookup := lookup_of_nodup (Shape.map_fst_of_bind? hbound ▸ hdistinct)
  have hsource : List.Forall₂ (Place.Stands fragment fun name => bound.lookup name)
      lane.source words := Shape.forall₂_of_bind? hbound hlookup
  refine ⟨_, hsource, fun place hplace => ?_⟩
  obtain ⟨target, htarget, rfl⟩ := List.mem_map.mp hplace
  exact ⟨target, htarget, rfl, Shape.forall₂_fill fun name hname =>
    Shape.known_of_forall₂ hsource name (hknown target htarget name hname)⟩

/-- What a rule and its destinations begin with alike is kept. -/
theorem Lane.take_of_sends? {lane : Lane} (hdistinct : lane.source.names.Nodup) {count : Nat}
    (halike : ∀ target ∈ lane.targets, target.1.take count = lane.source.take count)
    {words : List String} {places : List (List String × Bool)}
    (h : lane.sends? fragment words = some places) :
    ∀ place ∈ places, place.1.take count = words.take count := by
  obtain ⟨bound, hbound, rfl⟩ := Option.map_eq_some_iff.mp h
  intro place hplace
  obtain ⟨target, htarget, rfl⟩ := List.mem_map.mp hplace
  calc (target.1.fill bound).take count
      = Shape.fill bound (target.1.take count) := by rw [Shape.fill, Shape.fill, List.map_take]
    _ = Shape.fill bound (lane.source.take count) := by rw [halike target htarget]
    _ = (lane.source.fill bound).take count := by rw [Shape.fill, Shape.fill, List.map_take]
    _ = words.take count := by rw [Shape.fill_of_bind? hdistinct hbound]

namespace Move

section

variable (hdotless : ∀ name, (fragment name).isDotless = true) {m : Move} {path : String}

include hdotless

theorem isSome_sends?_iff (hm : m.IsSound) :
    (m.lane.sends? fragment (Path.segments path)).isSome = true ↔
      ((m.rule fragment).pattern.search? path).isSome = true := by
  rw [Lane.sends?, Option.isSome_map]
  constructor
  · intro h
    obtain ⟨bound, hbound⟩ := Option.isSome_iff_exists.mp h
    have hlookup := lookup_of_nodup (Shape.map_fst_of_bind? hbound ▸ hm.1)
    have hfits : (Shape.ofText m.source).Fits fragment (fun name => bound.lookup name) path :=
      Shape.forall₂_of_bind? hbound hlookup
    exact isSome_search?_of_fits hfits
  · intro h
    obtain ⟨captures, hsearch⟩ := Option.isSome_iff_exists.mp h
    obtain ⟨bound, hbound, -⟩ := Shape.exists_bind? (fits_source hdotless hm hsearch).1
    exact Option.isSome_iff_exists.mpr ⟨bound, hbound⟩

theorem sends?_of_search? (hm : m.IsSound) {captures : Captures}
    (h : (m.rule fragment).pattern.search? path = some captures) :
    m.lane.sends? fragment (Path.segments path) = some ((m.rule fragment).destinations.map fun d =>
      (Path.segments (d.render captures.named?), d.append)) := by
  obtain ⟨hfits, -⟩ := fits_source hdotless hm h
  obtain ⟨bound, hbound, hcaptured⟩ := Shape.exists_bind? hfits
  have hnames := Shape.map_fst_of_bind? hbound
  have hlookup : ∀ name ∈ (Shape.ofText m.source).names,
      bound.lookup name = captures.named? name := by
    intro name hname
    rw [← hnames] at hname
    obtain ⟨entry, hentry, rfl⟩ := List.mem_map.mp hname
    rw [lookup_of_nodup (hnames ▸ hm.1) entry hentry, hcaptured entry hentry]
  have hfill : ∀ target ∈ m.targets, (Shape.ofText target.2).fill bound =
      Path.segments (Template.render ⟨target.1, (Shape.ofText target.2).pieces⟩
        captures.named?) := fun target htarget =>
    Shape.fill_of_forall₂ (fits_target hdotless hm h htarget) fun name hname =>
      hlookup name ((hm.2 target htarget).2 name hname)
  have hdestinations : (m.rule fragment).destinations =
      m.targets.map fun target => ⟨target.1, (Shape.ofText target.2).pieces⟩ := rfl
  have hsource : m.lane.source.bind? fragment (Path.segments path) = some bound := hbound
  rw [Lane.sends?, hsource, Option.map_some, hdestinations, List.map_map, lane, List.map_map,
    Option.some.injEq]
  refine List.map_congr_left fun target htarget => ?_
  rw [Function.comp_apply, Function.comp_apply, hfill target htarget]

theorem segments_placesOf {moves : List Move} (hsound : ∀ m ∈ moves, m.IsSound) (path : String) :
    ((rules fragment moves).placesOf path).map (fun place =>
      (Path.segments place.1, place.2)) =
      sends fragment (moves.map Move.lane) (Path.segments path) := by
  rw [RuleSet.placesOf]
  induction moves with
  | nil => rfl
  | cons m moves ih =>
      have hm := hsound m List.mem_cons_self
      rw [rules, List.map_cons, RuleSet.find?, sends, List.map_cons, List.findSome?_cons]
      cases hsearch : (m.rule fragment).pattern.search? path with
      | some captures =>
          rw [sends?_of_search? hdotless hm hsearch]
          simp only [List.map_map, Option.getD_some]
          rfl
      | none =>
          have hnone : m.lane.sends? fragment (Path.segments path) = none := by
            rw [← Option.not_isSome_iff_eq_none, isSome_sends?_iff hdotless hm, hsearch]
            simp
          rw [hnone]
          exact ih fun m' hm' => hsound m' (List.mem_cons_of_mem _ hm')

end

end Move

end Rule

end Trialbook

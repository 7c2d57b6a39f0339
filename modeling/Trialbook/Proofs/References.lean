import Trialbook.Pattern.Standard
import Trialbook.Proofs.Placeholders
import Trialbook.Proofs.Tokens
import Mathlib.Data.Finset.Card

/-!
# What tokens refer to

A token refers to another one where its fragment holds the placeholder of that token,
unless a question mark stands in front, or a question mark and a `P` (`IsReference`).
What the tokens of a table stand for is an assignment of texts, in which the text of
every token is its fragment with a group around the text of the other token in place of
each reference (`Expands`). If no token refers to itself, be it through others, then
there is one such assignment and no other (`exists_expands`, `Expands.unique`).

The marks in front are meant to tell the name of a group, as in `(?P<NAME>…)`, from a
reference. They are also what remains of a quantifier. So a reference behind one is
taken for the name of a group, and stays as it is written (`resolveTokens_place_iff`).
-/

namespace Trialbook.Rule

open Text (Dictionary)

section

variable (tokens : Dictionary)

/-- Behind this text the placeholder of a name refers to a token. -/
def IsReference (before : List Char) (name : String) : Prop :=
  tokens.contains name = true ∧ ¬ ['?'] <:+ before ∧ ¬ ['?', 'P'] <:+ before

instance (before : List Char) (name : String) : Decidable (IsReference tokens before name) :=
  inferInstanceAs (Decidable (_ ∧ _ ∧ _))

/-- The fragment of a token holds a reference to another token. -/
def References (name other : String) : Prop :=
  ∃ fragment before behind, tokens.get? name = some fragment ∧
    fragment.toList = before ++ '<' :: (other.toList ++ '>' :: behind) ∧
    IsName other.toList ∧ IsReference tokens before other

/-- What takes the place of a placeholder in a fragment: a group with the text of the
token that it refers to, or else what was there. -/
def putReference (texts : String → String) (before : List Char) (name : String) : List Char :=
  if IsReference tokens before name then "(?:".toList ++ (texts name).toList ++ [')']
  else '<' :: (name.toList ++ ['>'])

/-- The text of every token is its fragment, with the text of another one in place of
every reference to it. -/
def Expands (texts : String → String) : Prop :=
  ∀ name fragment, tokens.get? name = some fragment →
    Replaced (putReference tokens texts) [] fragment.toList (texts name).toList

end

variable {tokens : Dictionary}

/-! ## References as the pieces of a fragment show them -/

theorem namesGroup_reverse_iff {before : List Char} :
    namesGroup before.reverse = true ↔ ['?'] <:+ before ∨ ['?', 'P'] <:+ before := by
  have hgroup : ∀ last : List Char,
      namesGroup last = true ↔ ['?'] <+: last ∨ ['P', '?'] <+: last := by
    intro last
    unfold namesGroup
    split
    · simp
    · simp
    · next hmark hname =>
        simp only [Bool.false_eq_true, false_iff, not_or]
        refine ⟨?_, ?_⟩
        · rintro ⟨rest, rfl⟩
          exact hmark rest rfl
        · rintro ⟨rest, rfl⟩
          exact hname rest rfl
  rw [hgroup, ← List.reverse_suffix, ← List.reverse_suffix, List.reverse_reverse]
  rfl

theorem refersTo?_reference {before : List Char} (name : String) :
    refersTo? tokens before.reverse (.reference name) =
      if IsReference tokens before name then some name else none := by
  have hiff : (tokens.contains name && !namesGroup before.reverse) = true ↔
      IsReference tokens before name := by
    rw [Bool.and_eq_true, Bool.not_eq_true', ← Bool.not_eq_true, namesGroup_reverse_iff, not_or]
    rfl
  rw [refersTo?]
  simp only [hiff]

theorem mem_referencesFrom_iff {before : List Char} {pieces : List Piece} {other : String} :
    other ∈ referencesFrom tokens before.reverse pieces ↔
      ∃ front back, pieces = front ++ .reference other :: back ∧
        IsReference tokens (before ++ front.flatMap Piece.written) other := by
  induction pieces generalizing before with
  | nil => simp [referencesFrom]
  | cons piece rest ih =>
      rw [referencesFrom_cons, ← List.reverse_append, List.mem_append, ih, Option.mem_toList]
      constructor
      · rintro (h | ⟨front, back, rfl, h⟩)
        · cases piece with
          | char c => simp [refersTo?] at h
          | reference name =>
              rw [refersTo?_reference] at h
              obtain ⟨href, hname⟩ := Option.ite_none_right_eq_some.mp h
              obtain rfl := Option.some.inj hname
              exact ⟨[], rest, rfl, by simpa using href⟩
        · exact ⟨piece :: front, back, rfl, by simpa using h⟩
      · rintro ⟨front, back, heq, h⟩
        cases front with
        | nil =>
            obtain ⟨rfl, rfl⟩ := List.cons.inj heq
            rw [refersTo?_reference, if_pos (by simpa using h)]
            exact Or.inl rfl
        | cons first front =>
            obtain ⟨rfl, rfl⟩ := List.cons.inj heq
            exact Or.inr ⟨front, back, rfl, by simpa using h⟩

/-- A fragment's text around one of its references. -/
theorem mem_references_iff {fragment other : String} :
    other ∈ references tokens fragment ↔ ∃ before behind,
      fragment.toList = before ++ '<' :: (other.toList ++ '>' :: behind) ∧
        IsName other.toList ∧ IsReference tokens before other := by
  rw [references, show ([] : List Char) = ([] : List Char).reverse from rfl, mem_referencesFrom_iff]
  constructor
  · rintro ⟨front, back, hpieces, h⟩
    have hmem : .reference other ∈ Piece.scanFrom 0 fragment.toList := by
      rw [← Piece.scan, hpieces]
      simp
    refine ⟨front.flatMap Piece.written, back.flatMap Piece.written, ?_,
      Piece.isName_of_mem_scanFrom hmem, by simpa using h⟩
    rw [← Piece.flatMap_written_scan fragment, hpieces]
    simp [Piece.written]
  · rintro ⟨before, behind, hfragment, hname, h⟩
    refine ⟨Piece.scanFrom 0 before, Piece.scanFrom 0 behind, ?_, ?_⟩
    · rw [Piece.scan, hfragment, Piece.scanFrom_append 0 before _ (Nat.zero_le _),
        Piece.scanFrom_placeholder hname, String.ofList_toList]
    · rwa [List.nil_append, Piece.flatMap_written_scanFrom]

theorem refers_iff {name other : String} :
    Refers tokens name other ↔ References tokens name other := by
  constructor
  · rintro ⟨fragment, hfragment, hmem⟩
    obtain ⟨before, behind, htext, hname, href⟩ := mem_references_iff.mp hmem
    exact ⟨fragment, before, behind, hfragment, htext, hname, href⟩
  · rintro ⟨fragment, before, behind, hfragment, htext, hname, href⟩
    exact ⟨fragment, hfragment, mem_references_iff.mpr ⟨before, behind, htext, hname, href⟩⟩

theorem refers_eq : Refers tokens = References tokens :=
  funext fun _ => funext fun _ => propext refers_iff

/-! ## The texts of tokens -/

theorem toList_spellFrom (texts : String → String) (before : List Char) (pieces : List Piece) :
    (spellFrom tokens texts before.reverse pieces).toList =
      replaceFrom (putReference tokens texts) before pieces := by
  induction pieces generalizing before with
  | nil => rfl
  | cons piece rest ih =>
      rw [spellFrom, ← List.reverse_append, String.toList_append, ih]
      cases piece with
      | char c =>
          rw [replaceFrom, spellPiece_of_none rfl, String.toList_ofList]
          rfl
      | reference name =>
          have hrefers : refersTo? tokens before.reverse (.reference name) = _ :=
            refersTo?_reference name
          rw [replaceFrom, putReference]
          split
          · next h =>
              rw [if_pos h] at hrefers
              rw [spellPiece_of_some hrefers]
              simp [Piece.written]
          · next h =>
              rw [if_neg h] at hrefers
              rw [spellPiece_of_none hrefers]
              simp [Piece.written]

theorem expands_iff {texts : String → String} : Expands tokens texts ↔ Spells tokens texts := by
  have hspell : ∀ fragment : String, (spell tokens texts fragment).toList =
      replaceFrom (putReference tokens texts) [] (Piece.scanFrom 0 fragment.toList) :=
    fun fragment => toList_spellFrom texts [] _
  refine forall₃_congr fun name fragment _ => ?_
  rw [replaced_iff, ← hspell, String.toList_inj]

/-- Of the tokens that can be reached from a token, a reference leaves fewer, unless it
leads back. -/
theorem Acyclic.wellFounded (h : Acyclic tokens) :
    WellFounded fun other name => Refers tokens name other := by
  classical
  let reached (name : String) : Finset String :=
    tokens.keys.toFinset.filter fun other => Relation.TransGen (Refers tokens) name other
  have hless : ∀ {other name}, Refers tokens name other → reached other ⊂ reached name := by
    intro other name hrefers
    have hother : other ∈ tokens.keys := by
      obtain ⟨fragment, -, hmem⟩ := hrefers
      exact Dictionary.mem_keys.mpr (contains_of_mem_referencesFrom hmem)
    refine (Finset.ssubset_iff_of_subset fun last hlast => ?_).mpr ⟨other, ?_, fun hback => ?_⟩
    · obtain ⟨hkey, hpath⟩ := Finset.mem_filter.mp hlast
      exact Finset.mem_filter.mpr ⟨hkey, .head hrefers hpath⟩
    · exact Finset.mem_filter.mpr ⟨List.mem_toFinset.mpr hother, .single hrefers⟩
    · exact h other (Finset.mem_filter.mp hback).2
  exact Subrelation.wf (fun {_ _} hrefers => Finset.card_lt_card (hless hrefers))
    (InvImage.wf (fun name => (reached name).card) Nat.lt_wfRel.wf)

theorem exists_spells (h : Acyclic tokens) : ∃ spelled, Spells tokens spelled := by
  classical
  let step (name : String) (known : (other : String) → Refers tokens name other → String) :
      String :=
    spell tokens (fun other => if known' : Refers tokens name other then known other known' else "")
      ((tokens.get? name).getD "")
  refine ⟨h.wellFounded.fix step, fun name fragment hfragment => ?_⟩
  rw [WellFounded.fix_eq]
  show spell tokens _ ((tokens.get? name).getD "") = _
  rw [hfragment, Option.getD_some]
  exact spell_congr fun other hother => dif_pos ⟨fragment, hfragment, hother⟩

theorem spells_unique (h : Acyclic tokens) {spelled spelled' : String → String}
    (hspelled : Spells tokens spelled) (hspelled' : Spells tokens spelled') {name : String}
    (hname : tokens.contains name = true) : spelled name = spelled' name := by
  induction name using h.wellFounded.induction with
  | _ name ih =>
      obtain ⟨fragment, hfragment⟩ := Option.isSome_iff_exists.mp hname
      rw [hspelled name fragment hfragment, hspelled' name fragment hfragment]
      exact spell_congr fun other hother =>
        ih other ⟨fragment, hfragment, hother⟩ (contains_of_mem_referencesFrom hother)

/-- If no token refers to itself, be it through others, there are texts for all. -/
theorem exists_expands (h : Acyclic tokens) : ∃ texts, Expands tokens texts := by
  obtain ⟨texts, htexts⟩ := exists_spells h
  exact ⟨texts, expands_iff.mpr htexts⟩

/-- And then the text of every token is determined. -/
theorem Expands.unique (h : Acyclic tokens) {texts texts' : String → String}
    (htexts : Expands tokens texts) (htexts' : Expands tokens texts') {name : String}
    (hname : tokens.contains name = true) : texts name = texts' name :=
  spells_unique h (expands_iff.mp htexts) (expands_iff.mp htexts') hname

/-! ## One place of a fragment -/

/-- Tokens that are spelled out have a group with the text of another token in a place
where its placeholder stands, if and only if neither a question mark nor a question mark
and a `P` stand in front. Otherwise the placeholder is still there. Around that place
stands what becomes of the rest of the fragment. -/
theorem resolveTokens_place_iff [Pattern.Dialect] {done : Dictionary}
    (h : resolveTokens tokens = .ok done) {name other fragment : String} {before behind : List Char}
    (hfragment : tokens.get? name = some fragment)
    (htext : fragment.toList = before ++ '<' :: (other.toList ++ '>' :: behind))
    (hname : IsName other.toList) (hother : tokens.contains other = true) :
    ∃ text inner front back, done.get? name = some text ∧ done.get? other = some inner ∧
      Replaced (putReference tokens (textIn done)) [] before front ∧
      Replaced (putReference tokens (textIn done)) (before ++ '<' :: (other.toList ++ ['>']))
        behind back ∧
      (text.toList = front ++ ("(?:".toList ++ inner.toList ++ [')']) ++ back ↔
        ¬ ['?'] <:+ before ∧ ¬ ['?', 'P'] <:+ before) ∧
      ((['?'] <:+ before ∨ ['?', 'P'] <:+ before) →
        text.toList = front ++ '<' :: (other.toList ++ ['>']) ++ back) := by
  obtain ⟨hsettled, hall⟩ := of_resolveTokens h
  have htexts : Expands tokens (textIn done) := expands_iff.mpr (spells_of_resolveTokens h)
  obtain ⟨text, hfound⟩ := Option.isSome_iff_exists.mp
    (hall name (by rw [Dictionary.contains, hfragment]; rfl))
  obtain ⟨inner, hinner⟩ := Option.isSome_iff_exists.mp (hall other hother)
  have hwhole := (htexts name fragment hfragment).eq
  rw [textIn_eq hfound, htext, replaceFrom_scanFrom_append hname, List.nil_append] at hwhole
  refine ⟨text, inner, _, _, hfound, hinner, replaced_replaceFrom _ _ _,
    replaced_replaceFrom _ _ _, ?_, ?_⟩
  · rw [hwhole, List.append_left_inj, List.append_right_inj, putReference, textIn_eq hinner]
    split
    · next href => simpa using href.2
    · next href =>
        simp only [IsReference, hother, true_and] at href
        simpa using href
  · intro hmark
    have href : ¬ IsReference tokens before other := fun href =>
      hmark.elim href.2.1 href.2.2
    rw [hwhole, putReference, if_neg href]

/-- Behind a `P` alone stands a reference. -/
theorem resolveTokens_place_after_letter :
    let tokens : Dictionary := ⟨[("A", "(?:P<B>|x)"), ("B", "b+")]⟩
    let done : Dictionary := ⟨[("A", "(?:P(?:b+)|x)"), ("B", "b+")]⟩
    resolveTokens tokens = .ok done ∧ IsName "B".toList ∧ tokens.contains "B" = true ∧
      ¬ ['?'] <:+ "(?:P".toList ∧ ¬ ['?', 'P'] <:+ "(?:P".toList ∧
      ∃ front back, done.get? "A" =
        some (String.ofList (front ++ ("(?:".toList ++ "b+".toList ++ [')']) ++ back)) := by
  intro tokens done
  have hdone : resolveTokens tokens = .ok done := eq_ok_of_toOption (by decide +kernel)
  have hname : IsName "B".toList := ⟨'B', [], rfl, by decide, by simp⟩
  have hmark : ¬ ['?'] <:+ "(?:P".toList ∧ ¬ ['?', 'P'] <:+ "(?:P".toList := by decide
  have hfragment : "(?:P<B>|x)".toList =
      "(?:P".toList ++ '<' :: ("B".toList ++ '>' :: "|x)".toList) := rfl
  obtain ⟨text, inner, front, back, htext, hinner, -, -, hiff, -⟩ :=
    resolveTokens_place_iff hdone (rfl : tokens.get? "A" = some "(?:P<B>|x)") hfragment hname rfl
  obtain rfl := Option.some.inj hinner
  refine ⟨hdone, hname, rfl, hmark.1, hmark.2, front, back, ?_⟩
  rw [htext, ← hiff.mpr hmark, String.ofList_toList]

/-- Behind a quantifier that is a question mark stands a reference too, and it is not
replaced. -/
theorem resolveTokens_after_quantifier :
    let tokens : Dictionary := ⟨[("A", "a?<B>"), ("B", "b")]⟩
    resolveTokens tokens = .ok tokens ∧ tokens.get? "A" = some "a?<B>" ∧
      tokens.contains "B" = true ∧ ¬ "(?".toList <:+ "a?".toList ∧ ¬ "(?P".toList <:+ "a?".toList ∧
      "a?<B>" = "a?" ++ "<B>" ∧ tokens.get? "A" ≠ some ("a?" ++ "(?:b)") := by
  exact ⟨eq_ok_of_toOption (by decide +kernel), rfl, rfl, by decide, by decide, rfl, by decide⟩

end Trialbook.Rule

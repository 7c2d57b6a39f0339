import Trialbook.Proofs.Dictionaries
import Trialbook.Proofs.Reading
import Trialbook.Rule.Token
import Mathlib.Data.List.Perm.Subperm
import Mathlib.Logic.Relation

/-!
# When tokens can be spelled out

Tokens are spelled out depth first, with those that are known by now in a
dictionary and those that are being spelled out in a list. That is an algorithm.
What it computes has a short description: a token's text is its fragment with every
reference replaced by the text of the token that it refers to (`Spells`). If no
token refers to itself, be it through others, there is just one such assignment of
texts.

The algorithm ends with a dictionary if and only if there are no cycles and every
text is a regex (`exists_resolveTokens_iff`), and the dictionary holds the texts.

One direction follows what a run leaves behind. A token is added to the dictionary
behind all that it refers to (`Settled`), and so none that is there is on a cycle.
The other follows the list: the tokens in it lead to the one that is looked at, so
none comes twice if there are no cycles, and as many as there are names suffice for
the depth.
-/

namespace Trialbook.Rule

open Text (Dictionary)

/-! ## Texts of tokens -/

section

variable (tokens : Dictionary)

/-- Whether the fragment of a token refers to another token. -/
def Refers (name other : String) : Prop :=
  ∃ fragment, tokens.get? name = some fragment ∧ other ∈ references tokens fragment

/-- No token refers to itself, be it through others. -/
def Acyclic : Prop := ∀ name, ¬ Relation.TransGen (Refers tokens) name name

/-- The token that a piece refers to, if it is a reference. -/
def refersTo? (before : List Char) : Piece → Option String
  | .char _ => none
  | .reference name => if tokens.contains name && !namesGroup before then some name else none

/-- The text of a piece, given the texts of tokens: a reference is a group with the
text of its token. -/
def spellPiece (spelled : String → String) (before : List Char) (piece : Piece) : String :=
  match refersTo? tokens before piece with
  | none => String.ofList piece.written
  | some name => "(?:" ++ spelled name ++ ")"

/-- The text of pieces, given the texts of tokens. -/
def spellFrom (spelled : String → String) : List Char → List Piece → String
  | _, [] => ""
  | before, piece :: rest =>
    spellPiece tokens spelled before piece ++
      spellFrom spelled (piece.written.reverse ++ before) rest

/-- The text of a fragment, given the texts of tokens. -/
def spell (spelled : String → String) (fragment : String) : String :=
  spellFrom tokens spelled [] (Piece.scan fragment)

/-- The texts of all tokens fit together. -/
def Spells (spelled : String → String) : Prop :=
  ∀ name fragment, tokens.get? name = some fragment → spelled name = spell tokens spelled fragment

end

/-- Whether a text reads as a regex of the dialect. -/
def IsRegex [Pattern.Dialect] (text : String) : Prop := (Pattern.ofChars? text.toList).isSome = true

/-- The text under a name. -/
def textIn (done : Dictionary) (name : String) : String := (done.get? name).getD ""

theorem textIn_eq {done : Dictionary} {name text : String} (h : done.get? name = some text) :
    textIn done name = text := by
  rw [textIn, h]
  rfl

section

variable {tokens : Dictionary} {spelled spelled' : String → String}

theorem referencesFrom_cons (before : List Char) (piece : Piece) (rest : List Piece) :
    referencesFrom tokens before (piece :: rest) = (refersTo? tokens before piece).toList ++
      referencesFrom tokens (piece.written.reverse ++ before) rest := by
  cases piece with
  | char c => rfl
  | reference name =>
      rw [referencesFrom, refersTo?]
      split <;> rfl

theorem spellPiece_of_none {before : List Char} {piece : Piece}
    (h : refersTo? tokens before piece = none) :
    spellPiece tokens spelled before piece = String.ofList piece.written := by
  rw [spellPiece, h]

theorem spellPiece_of_some {before : List Char} {piece : Piece} {name : String}
    (h : refersTo? tokens before piece = some name) :
    spellPiece tokens spelled before piece = "(?:" ++ spelled name ++ ")" := by
  rw [spellPiece, h]

theorem spellFrom_congr {before : List Char} {pieces : List Piece}
    (h : ∀ name ∈ referencesFrom tokens before pieces, spelled name = spelled' name) :
    spellFrom tokens spelled before pieces = spellFrom tokens spelled' before pieces := by
  induction pieces generalizing before with
  | nil => rfl
  | cons piece rest ih =>
      simp only [referencesFrom_cons, List.mem_append, Option.mem_toList] at h
      rw [spellFrom, spellFrom, ih fun name hname => h name (Or.inr hname)]
      cases hrefers : refersTo? tokens before piece with
      | none => rw [spellPiece_of_none hrefers, spellPiece_of_none hrefers]
      | some name =>
          rw [spellPiece_of_some hrefers, spellPiece_of_some hrefers, h name (Or.inl hrefers)]

theorem spell_congr {fragment : String}
    (h : ∀ name ∈ references tokens fragment, spelled name = spelled' name) :
    spell tokens spelled fragment = spell tokens spelled' fragment := spellFrom_congr h

theorem contains_of_refersTo? {before : List Char} {piece : Piece} {name : String}
    (h : refersTo? tokens before piece = some name) : tokens.contains name = true := by
  cases piece with
  | char c => simp [refersTo?] at h
  | reference other =>
      rw [refersTo?] at h
      obtain ⟨href, hname⟩ := Option.ite_none_right_eq_some.mp h
      exact Option.some.inj hname ▸ (Bool.and_eq_true_iff.mp href).1

theorem contains_of_mem_referencesFrom {before : List Char} {pieces : List Piece} {name : String}
    (h : name ∈ referencesFrom tokens before pieces) : tokens.contains name = true := by
  induction pieces generalizing before with
  | nil => simp [referencesFrom] at h
  | cons piece rest ih =>
      rw [referencesFrom_cons, List.mem_append, Option.mem_toList] at h
      exact h.elim contains_of_refersTo? ih

namespace Expansion

variable {resolve : String → Dictionary → Except TableFault (String × Dictionary)}

theorem add_of_none {e : Expansion} {piece : Piece}
    (h : refersTo? tokens e.before piece = none) :
    e.add tokens resolve piece = .ok ⟨e.text ++ String.ofList piece.written,
      piece.written.reverse ++ e.before, e.done⟩ := by
  cases piece with
  | char c => rfl
  | reference name =>
      rw [refersTo?] at h
      split at h
      · simp at h
      · next href => exact if_neg href

theorem add_of_some {e : Expansion} {piece : Piece} {name : String}
    (h : refersTo? tokens e.before piece = some name) :
    e.add tokens resolve piece = (resolve name e.done).map fun found =>
      ⟨e.text ++ "(?:" ++ found.1 ++ ")", piece.written.reverse ++ e.before, found.2⟩ := by
  cases piece with
  | char c => simp [refersTo?] at h
  | reference other =>
      obtain ⟨href, hname⟩ := Option.ite_none_right_eq_some.mp h
      obtain rfl := Option.some.inj hname
      exact if_pos href

theorem exists_of_add {e mid : Expansion} {piece : Piece}
    (h : e.add tokens resolve piece = .ok mid) :
    mid.before = piece.written.reverse ++ e.before ∧
      match refersTo? tokens e.before piece with
      | none => mid.text = e.text ++ String.ofList piece.written ∧ mid.done = e.done
      | some name => ∃ text, resolve name e.done = .ok (text, mid.done) ∧
          mid.text = e.text ++ "(?:" ++ text ++ ")" := by
  cases hrefers : refersTo? tokens e.before piece with
  | none =>
      rw [add_of_none hrefers] at h
      obtain rfl := Except.ok.inj h
      exact ⟨rfl, rfl, rfl⟩
  | some name =>
      rw [add_of_some hrefers] at h
      obtain ⟨found, hfound, rfl⟩ := map_eq_ok.mp h
      exact ⟨rfl, found.1, hfound, rfl⟩

end Expansion

/-! ## Texts that are known -/

theorem textIn_insert_of_isSome {done : Dictionary} {name other text : String}
    (hnew : done.get? name = none) (hother : (done.get? other).isSome = true) :
    textIn (done.insert name text) other = textIn done other := by
  have hne : other ≠ name := by
    rintro rfl
    rw [hnew] at hother
    simp at hother
  rw [textIn, textIn, Dictionary.get?_insert, if_neg hne]

/-- The texts in the dictionary are those assigned. -/
def Agrees (spelled : String → String) (done : Dictionary) : Prop :=
  ∀ name text, done.get? name = some text → text = spelled name

theorem Agrees.insert {done : Dictionary} (h : Agrees spelled done) (name : String) :
    Agrees spelled (done.insert name (spelled name)) := by
  intro other text hother
  rw [Dictionary.get?_insert] at hother
  split at hother
  · next heq => rw [heq, ← Option.some.inj hother]
  · exact h other text hother

theorem agrees_empty (spelled : String → String) : Agrees spelled {} := by
  intro name text hname
  simp [Dictionary.get?] at hname

theorem exists_foldlM_add {resolve : String → Dictionary → Except TableFault (String × Dictionary)}
    {pieces : List Piece} {e : Expansion}
    (hresolve : ∀ name ∈ referencesFrom tokens e.before pieces, ∀ done, Agrees spelled done →
      ∃ done', resolve name done = .ok (spelled name, done') ∧ Agrees spelled done')
    (hdone : Agrees spelled e.done) :
    ∃ e', pieces.foldlM (Expansion.add tokens resolve) e = .ok e' ∧
      e'.text = e.text ++ spellFrom tokens spelled e.before pieces ∧ Agrees spelled e'.done := by
  induction pieces generalizing e with
  | nil => exact ⟨e, rfl, String.append_empty.symm, hdone⟩
  | cons piece rest ih =>
      rw [referencesFrom_cons] at hresolve
      have hrest : ∀ name ∈ referencesFrom tokens (piece.written.reverse ++ e.before) rest,
          ∀ done, Agrees spelled done →
            ∃ done', resolve name done = .ok (spelled name, done') ∧ Agrees spelled done' :=
        fun name hname => hresolve name (List.mem_append_right _ hname)
      rw [List.foldlM_cons, spellFrom, ← String.append_assoc]
      cases hrefers : refersTo? tokens e.before piece with
      | none =>
          rw [Expansion.add_of_none hrefers, spellPiece_of_none hrefers]
          exact ih hrest hdone
      | some name =>
          obtain ⟨done', hfound, hdone'⟩ := hresolve name
            (List.mem_append_left _ (by rw [hrefers]; exact List.mem_cons_self)) e.done hdone
          rw [Expansion.add_of_some hrefers, hfound, spellPiece_of_some hrefers]
          have hend := @ih ⟨e.text ++ "(?:" ++ spelled name ++ ")",
            piece.written.reverse ++ e.before, done'⟩ hrest hdone'
          simp only [String.append_assoc] at hend ⊢
          exact hend

/-- Tokens that lead to another one, each of them once, leave room for it. -/
theorem length_lt_of_acyclic (hacyclic : Acyclic tokens) {around : List String} {name : String}
    (hname : tokens.contains name = true)
    (haround : ∀ other ∈ around, tokens.contains other = true ∧
      Relation.TransGen (Refers tokens) other name) (hdistinct : around.Nodup) :
    name ∉ around ∧ around.length < tokens.keys.length := by
  have hopen : name ∉ around := fun hmem => hacyclic name (haround name hmem).2
  refine ⟨hopen, ?_⟩
  have hsubset : name :: around ⊆ tokens.keys := by
    intro other hother
    rcases List.mem_cons.mp hother with rfl | hother
    · exact Dictionary.mem_keys.mpr hname
    · exact Dictionary.mem_keys.mpr (haround other hother).1
  exact (List.subperm_of_subset (List.nodup_cons.mpr ⟨hopen, hdistinct⟩) hsubset).length_le

end

/-! ## What a run leaves behind -/

variable [Pattern.Dialect]

/-- A dictionary of texts to which each token was added behind all that it refers
to. -/
inductive Settled (tokens : Dictionary) : Dictionary → Prop
  | empty : Settled tokens {}
  | insert {done : Dictionary} {name fragment : String} (earlier : Settled tokens done)
      (hfragment : tokens.get? name = some fragment)
      (hknown : ∀ other ∈ references tokens fragment, (done.get? other).isSome = true)
      (hnew : done.get? name = none) (hregex : IsRegex (spell tokens (textIn done) fragment)) :
      Settled tokens (done.insert name (spell tokens (textIn done) fragment))

namespace Settled

variable {tokens done : Dictionary}

/-- What is known of a text in the dictionary. -/
theorem of_get? (h : Settled tokens done) {name text : String}
    (hname : done.get? name = some text) :
    ∃ fragment, tokens.get? name = some fragment ∧ text = spell tokens (textIn done) fragment ∧
      (∀ other ∈ references tokens fragment, (done.get? other).isSome = true) ∧ IsRegex text := by
  induction h generalizing name text with
  | empty => simp [Dictionary.get?] at hname
  | @insert done added fragment _ hfragment hknown hnew hregex ih =>
      have hgrown : ∀ other, (done.get? other).isSome = true →
          ((done.insert added (spell tokens (textIn done) fragment)).get? other).isSome = true := by
        intro other hother
        rw [Dictionary.get?_insert]
        split
        · rfl
        · exact hother
      have hsame : ∀ {fragment' : String},
          (∀ other ∈ references tokens fragment', (done.get? other).isSome = true) →
          spell tokens (textIn done) fragment' =
            spell tokens (textIn (done.insert added (spell tokens (textIn done) fragment)))
              fragment' := fun hrefs =>
        spell_congr fun other hother => (textIn_insert_of_isSome hnew (hrefs other hother)).symm
      rw [Dictionary.get?_insert] at hname
      split at hname
      · next heq =>
          obtain rfl := Option.some.inj hname
          exact ⟨fragment, heq ▸ hfragment, hsame hknown, fun other hother =>
            hgrown other (hknown other hother), hregex⟩
      · obtain ⟨fragment', hfragment', rfl, hknown', hregex'⟩ := ih hname
        exact ⟨fragment', hfragment', hsame hknown', fun other hother =>
          hgrown other (hknown' other hother), hregex'⟩

theorem isSome_of_transGen (h : Settled tokens done) {name other : String}
    (hname : (done.get? name).isSome = true)
    (hpath : Relation.TransGen (Refers tokens) name other) :
    (done.get? other).isSome = true := by
  have hstep : ∀ {a b : String}, (done.get? a).isSome = true → Refers tokens a b →
      (done.get? b).isSome = true := by
    rintro a b ha ⟨fragment, hfragment, href⟩
    obtain ⟨text, htext⟩ := Option.isSome_iff_exists.mp ha
    obtain ⟨fragment', hfragment', -, hknown, -⟩ := h.of_get? htext
    obtain rfl := Option.some.inj (hfragment.symm.trans hfragment')
    exact hknown b href
  induction hpath with
  | single hfirst => exact hstep hname hfirst
  | tail _ hlast ih => exact hstep ih hlast

/-- No token in the dictionary is on a cycle: the one that was added last would have
been there before. -/
theorem acyclic (h : Settled tokens done) {name : String} (hname : (done.get? name).isSome = true) :
    ¬ Relation.TransGen (Refers tokens) name name := by
  induction h generalizing name with
  | empty => simp [Dictionary.get?] at hname
  | @insert done added fragment earlier hfragment hknown hnew _ ih =>
      rw [Dictionary.get?_insert] at hname
      split at hname
      · next heq =>
          subst heq
          intro hcycle
          obtain ⟨next, ⟨fragment', hfragment', href⟩, hback⟩ :=
            Relation.TransGen.head'_iff.mp hcycle
          obtain rfl := Option.some.inj (hfragment.symm.trans hfragment')
          have hnext := hknown next href
          rcases Relation.reflTransGen_iff_eq_or_transGen.mp hback with heq | hback
          · rw [← heq, hnew] at hnext
            simp at hnext
          · have hagain := earlier.isSome_of_transGen hnext hback
            rw [hnew] at hagain
            simp at hagain
      · exact ih hname

/-- The texts in the dictionary are those of any assignment that fits together. -/
theorem eq_of_spells (h : Settled tokens done) {spelled : String → String}
    (hspelled : Spells tokens spelled) {name text : String} (hname : done.get? name = some text) :
    text = spelled name := by
  induction h generalizing name text with
  | empty => simp [Dictionary.get?] at hname
  | @insert done added fragment earlier hfragment hknown hnew _ ih =>
      rw [Dictionary.get?_insert] at hname
      split at hname
      · next heq =>
          subst heq
          obtain rfl := Option.some.inj hname
          rw [hspelled _ _ hfragment]
          refine spell_congr fun other hother => ?_
          obtain ⟨text, htext⟩ := Option.isSome_iff_exists.mp (hknown other hother)
          rw [textIn_eq htext, ih htext]
      · exact ih hname

end Settled

/-! ## The run ends well only if it can -/

section

variable {tokens done done' : Dictionary}

/-- How a dictionary grows while tokens are spelled out, those around them being
left open. -/
structure Grows (tokens : Dictionary) (around : List String) (done done' : Dictionary) : Prop where
  settled : Settled tokens done → Settled tokens done'
  kept : ∀ name text, done.get? name = some text → done'.get? name = some text
  left : ∀ name ∈ around, done.get? name = none → done'.get? name = none

namespace Grows

variable {around : List String} {done'' : Dictionary}

theorem refl (tokens : Dictionary) (around : List String) (done : Dictionary) :
    Grows tokens around done done := ⟨id, fun _ _ => id, fun _ _ => id⟩

theorem trans (h : Grows tokens around done done') (h' : Grows tokens around done' done'') :
    Grows tokens around done done'' :=
  ⟨h'.settled ∘ h.settled, fun name text hname => h'.kept name text (h.kept name text hname),
    fun name hmem hname => h'.left name hmem (h.left name hmem hname)⟩

theorem isSome (h : Grows tokens around done done') {name : String}
    (hname : (done.get? name).isSome = true) : (done'.get? name).isSome = true := by
  obtain ⟨text, htext⟩ := Option.isSome_iff_exists.mp hname
  rw [h.kept name text htext]
  rfl

/-- The token in work, once its fragment is spelled out. -/
theorem insert {name fragment text : String} (h : Grows tokens (around ++ [name]) done done')
    (hnew : done.get? name = none) (haround : name ∉ around)
    (hfragment : tokens.get? name = some fragment)
    (hrefs : ∀ other ∈ references tokens fragment, (done'.get? other).isSome = true)
    (htext : text = spell tokens (textIn done') fragment) (hregex : IsRegex text) :
    Grows tokens around done (done'.insert name text) := by
  have hopen : done'.get? name = none := h.left name (by simp) hnew
  refine ⟨fun hdone => ?_, fun other found hother => ?_, fun other hmem hother => ?_⟩
  · rw [htext] at hregex ⊢
    exact .insert (h.settled hdone) hfragment hrefs hopen hregex
  · have hknown := h.kept other found hother
    rw [Dictionary.get?_insert, if_neg, hknown]
    rintro rfl
    rw [hopen] at hknown
    simp at hknown
  · rw [Dictionary.get?_insert, if_neg, h.left other (List.mem_append_left _ hmem) hother]
    rintro rfl
    exact haround hmem

end Grows

variable {around : List String}
  {resolve : String → Dictionary → Except TableFault (String × Dictionary)}

/-- The pieces of a fragment, spelled out one after the other. -/
theorem of_foldlM_add
    (hresolve : ∀ name done text done', tokens.contains name = true →
      resolve name done = .ok (text, done') →
      Grows tokens around done done' ∧ done'.get? name = some text)
    {pieces : List Piece} {e e' : Expansion}
    (h : pieces.foldlM (Expansion.add tokens resolve) e = .ok e') :
    Grows tokens around e.done e'.done ∧
      e'.text = e.text ++ spellFrom tokens (textIn e'.done) e.before pieces ∧
      ∀ other ∈ referencesFrom tokens e.before pieces, (e'.done.get? other).isSome = true := by
  induction pieces generalizing e with
  | nil =>
      obtain rfl := Except.ok.inj h
      exact ⟨.refl _ _ _, (String.append_empty).symm, by simp [referencesFrom]⟩
  | cons piece rest ih =>
      rw [List.foldlM_cons] at h
      obtain ⟨mid, hadd, hrest⟩ := bind_eq_ok.mp h
      obtain ⟨hgrows, htext, hrefs⟩ := ih hrest
      obtain ⟨hbefore, hfirst⟩ := Expansion.exists_of_add hadd
      rw [hbefore] at htext hrefs
      rw [spellFrom, referencesFrom_cons]
      cases hrefers : refersTo? tokens e.before piece with
      | none =>
          rw [hrefers] at hfirst
          obtain ⟨hmid, hdone⟩ := hfirst
          rw [hdone] at hgrows
          refine ⟨hgrows, ?_, hrefs⟩
          rw [htext, hmid, spellPiece_of_none hrefers, String.append_assoc]
      | some name =>
          rw [hrefers] at hfirst
          obtain ⟨text, hfound, hmid⟩ := hfirst
          obtain ⟨hfirst, hknown⟩ := hresolve name _ _ _ (contains_of_refersTo? hrefers) hfound
          have hname : e'.done.get? name = some text := hgrows.kept name text hknown
          refine ⟨hfirst.trans hgrows, ?_, fun other hother => ?_⟩
          · rw [htext, hmid, spellPiece_of_some hrefers, textIn_eq hname]
            simp only [String.append_assoc]
          · rcases List.mem_append.mp hother with hother | hother
            · rw [List.mem_singleton.mp hother, hname]
              rfl
            · exact hrefs other hother

/-- How a token is spelled out: it is in the dictionary already, or it is not, is not
around itself either, and its fragment is spelled out one level further down. -/
theorem resolveToken_eq_ok_iff {fuel : Nat} {name text : String} :
    resolveToken tokens fuel around name done = .ok (text, done') ↔
      (done.get? name = some text ∧ done = done') ∨
      (done.get? name = none ∧ name ∉ around ∧ ∃ inner e, fuel = inner + 1 ∧
        (Piece.scan ((tokens.get? name).getD "")).foldlM
          (Expansion.add tokens (resolveToken tokens inner (around ++ [name]))) ⟨"", [], done⟩ =
            .ok e ∧
        IsRegex e.text ∧ e.text = text ∧ e.done.insert name e.text = done') := by
  cases hfound : done.get? name with
  | some found => cases fuel <;> simp [resolveToken, hfound]
  | none =>
      by_cases haround : name ∈ around
      · cases fuel <;> simp [resolveToken, hfound, haround]
      · cases fuel with
        | zero => simp [resolveToken, hfound, haround]
        | succ inner =>
            simp only [resolveToken, hfound, List.contains_iff_mem, haround, if_false, bind_eq_ok,
              IsRegex, Option.isSome_iff_ne_none, Option.isNone_iff_eq_none]
            constructor
            · rintro ⟨e, hpieces, h⟩
              split at h
              · simp at h
              · next hregex =>
                  obtain ⟨htext, hdone⟩ := Prod.mk.inj (Except.ok.inj h)
                  exact Or.inr ⟨trivial, not_false, inner, e, rfl, hpieces, hregex, htext, hdone⟩
            · rintro (⟨h, -⟩ | ⟨-, -, _, e, heq, hpieces, hregex, rfl, rfl⟩)
              · simp at h
              · obtain rfl := Nat.succ.inj heq
                exact ⟨e, hpieces, by rw [if_neg hregex]⟩

/-- A token that is spelled out is in the dictionary then. -/
theorem of_resolveToken {fuel : Nat} {around : List String} {name text : String}
    {done done' : Dictionary} (hname : tokens.contains name = true)
    (h : resolveToken tokens fuel around name done = .ok (text, done')) :
    Grows tokens around done done' ∧ done'.get? name = some text := by
  induction fuel using Nat.strongRecOn generalizing around name text done done' with
  | ind fuel ih =>
      obtain ⟨hfound, rfl⟩ | ⟨hnew, haround, inner, e, rfl, hpieces, hregex, rfl, rfl⟩ :=
        resolveToken_eq_ok_iff.mp h
      · exact ⟨.refl _ _ _, hfound⟩
      · obtain ⟨fragment, hfragment⟩ := Option.isSome_iff_exists.mp hname
        rw [hfragment, Option.getD_some] at hpieces
        obtain ⟨hgrows, htext, hrefs⟩ := of_foldlM_add
          (fun _ _ _ _ hother hfound => ih inner (Nat.lt_succ_self _) hother hfound) hpieces
        rw [String.empty_append] at htext
        exact ⟨hgrows.insert hnew haround hfragment hrefs htext hregex,
          Dictionary.get?_insert_self _ _ _⟩

/-- Tokens spelled out in an order, down to some depth, behind those that are known. -/
def resolveFrom (tokens : Dictionary) (depth : Nat) (order : List String) (done : Dictionary) :
    Except TableFault Dictionary :=
  order.foldlM (fun done name => (resolveToken tokens depth [] name done).map (·.2)) done

theorem resolveTokens_eq (tokens : Dictionary) :
    resolveTokens tokens = resolveFrom tokens tokens.keys.length tokens.keys {} := rfl

theorem resolveFrom_cons (depth : Nat) (name : String) (order : List String) (done : Dictionary) :
    resolveFrom tokens depth (name :: order) done =
      (resolveToken tokens depth [] name done).bind fun found =>
        resolveFrom tokens depth order found.2 := by
  rw [resolveFrom, List.foldlM_cons]
  cases resolveToken tokens depth [] name done <;> rfl

/-- A run that ends well leaves every token behind, each behind what it refers to. -/
theorem of_resolveFrom {depth : Nat} {order : List String} {done done' : Dictionary}
    (horder : ∀ name ∈ order, tokens.contains name = true)
    (h : resolveFrom tokens depth order done = .ok done') :
    Grows tokens [] done done' ∧ ∀ name ∈ order, (done'.get? name).isSome = true := by
  induction order generalizing done with
  | nil =>
      obtain rfl := Except.ok.inj h
      exact ⟨.refl _ _ _, by simp⟩
  | cons name order ih =>
      rw [resolveFrom_cons] at h
      obtain ⟨hname, hothers⟩ := List.forall_mem_cons.mp horder
      obtain ⟨⟨text, mid⟩, hfound, hrest⟩ := bind_eq_ok.mp h
      obtain ⟨hgrows, htext⟩ := of_resolveToken hname hfound
      obtain ⟨hlater, hknown⟩ := ih hothers hrest
      exact ⟨hgrows.trans hlater, List.forall_mem_cons.mpr
        ⟨hlater.isSome (by rw [htext]; rfl), hknown⟩⟩

theorem of_resolveTokens (h : resolveTokens tokens = .ok done) :
    Settled tokens done ∧ ∀ name, tokens.contains name = true → (done.get? name).isSome = true := by
  obtain ⟨hgrows, hknown⟩ := of_resolveFrom (fun name hname => Dictionary.mem_keys.mp hname) h
  exact ⟨hgrows.settled .empty, fun name hname => hknown name (Dictionary.mem_keys.mpr hname)⟩

/-! ## The run ends well if it can -/

variable {spelled : String → String}

/-- A token can be spelled out if there are no cycles and all texts are regexes.
The tokens around it lead to it, and there is depth left for all that are not
around it. -/
theorem exists_resolveToken (hacyclic : Acyclic tokens) (hspelled : Spells tokens spelled)
    (hregex : ∀ name, tokens.contains name = true → IsRegex (spelled name)) {fuel : Nat}
    {around : List String} {name : String} (hname : tokens.contains name = true)
    (haround : ∀ other ∈ around, tokens.contains other = true ∧
      Relation.TransGen (Refers tokens) other name) (hdistinct : around.Nodup)
    (hfuel : tokens.keys.length ≤ fuel + around.length) (hdone : Agrees spelled done) :
    ∃ done', resolveToken tokens fuel around name done = .ok (spelled name, done') ∧
      Agrees spelled done' := by
  induction fuel generalizing around name done with
  | zero =>
      have hroom := (length_lt_of_acyclic hacyclic hname haround hdistinct).2
      omega
  | succ fuel ih =>
      cases hfound : done.get? name with
      | some text =>
          obtain rfl := hdone name text hfound
          exact ⟨done, resolveToken_eq_ok_iff.mpr (Or.inl ⟨hfound, rfl⟩), hdone⟩
      | none =>
          obtain ⟨hopen, -⟩ := length_lt_of_acyclic hacyclic hname haround hdistinct
          obtain ⟨fragment, hfragment⟩ := Option.isSome_iff_exists.mp hname
          have hinner : ∀ other ∈ references tokens fragment, ∀ done, Agrees spelled done →
              ∃ done', resolveToken tokens fuel (around ++ [name]) other done =
                .ok (spelled other, done') ∧ Agrees spelled done' := by
            intro other hother done hdone
            have hrefers : Relation.TransGen (Refers tokens) name other :=
              .single ⟨fragment, hfragment, hother⟩
            refine ih (contains_of_mem_referencesFrom hother) (fun outer houter => ?_) ?_ ?_ hdone
            · rcases List.mem_append.mp houter with houter | houter
              · exact ⟨(haround outer houter).1, (haround outer houter).2.trans hrefers⟩
              · rw [List.mem_singleton.mp houter]
                exact ⟨hname, hrefers⟩
            · exact (List.perm_append_singleton name around).nodup_iff.mpr
                (List.nodup_cons.mpr ⟨hopen, hdistinct⟩)
            · rw [List.length_append, List.length_singleton]
              omega
          obtain ⟨e, hpieces, htext, hend⟩ := @exists_foldlM_add tokens spelled
            (resolveToken tokens fuel (around ++ [name])) (Piece.scan fragment) ⟨"", [], done⟩
            hinner hdone
          have hspells : e.text = spelled name := by
            rw [htext, hspelled name fragment hfragment, String.empty_append]
            rfl
          refine ⟨_, resolveToken_eq_ok_iff.mpr (Or.inr ⟨hfound, hopen, fuel, e, rfl, ?_, ?_,
            hspells, rfl⟩), hspells ▸ hend.insert name⟩
          · rw [hfragment, Option.getD_some]
            exact hpieces
          · exact hspells ▸ hregex name hname

theorem exists_resolveFrom (hacyclic : Acyclic tokens) (hspelled : Spells tokens spelled)
    (hregex : ∀ name, tokens.contains name = true → IsRegex (spelled name)) {depth : Nat}
    (hdepth : tokens.keys.length ≤ depth) {order : List String}
    (horder : ∀ name ∈ order, tokens.contains name = true) (hdone : Agrees spelled done) :
    ∃ done', resolveFrom tokens depth order done = .ok done' := by
  induction order generalizing done with
  | nil => exact ⟨done, rfl⟩
  | cons name order ih =>
      obtain ⟨hname, hothers⟩ := List.forall_mem_cons.mp horder
      obtain ⟨mid, hfirst, hmid⟩ := exists_resolveToken hacyclic hspelled hregex hname
        (by simp) .nil hdepth hdone
      rw [resolveFrom_cons, hfirst]
      exact ih hothers hmid

theorem exists_resolveTokens (hacyclic : Acyclic tokens) (hspelled : Spells tokens spelled)
    (hregex : ∀ name, tokens.contains name = true → IsRegex (spelled name)) :
    ∃ done, resolveTokens tokens = .ok done :=
  exists_resolveFrom hacyclic hspelled hregex (Nat.le_refl _)
    (fun _ hname => Dictionary.mem_keys.mp hname) (agrees_empty spelled)

/-- The texts that a run leaves behind fit together. -/
theorem spells_of_resolveTokens (h : resolveTokens tokens = .ok done) :
    Spells tokens (textIn done) := by
  obtain ⟨hsettled, hall⟩ := of_resolveTokens h
  intro name fragment hfragment
  have hname : tokens.contains name = true := by rw [Dictionary.contains, hfragment]; rfl
  obtain ⟨text, htext⟩ := Option.isSome_iff_exists.mp (hall name hname)
  obtain ⟨fragment', hfragment', hspells, -, -⟩ := hsettled.of_get? htext
  obtain rfl := Option.some.inj (hfragment.symm.trans hfragment')
  rw [textIn_eq htext, hspells]

/-- Tokens can be spelled out if and only if none refers to itself, be it through
others, and their texts are regexes. -/
theorem exists_resolveTokens_iff :
    (∃ done, resolveTokens tokens = .ok done) ↔ Acyclic tokens ∧ ∃ spelled, Spells tokens spelled ∧
      ∀ name, tokens.contains name = true → IsRegex (spelled name) := by
  constructor
  · rintro ⟨done, h⟩
    obtain ⟨hsettled, hall⟩ := of_resolveTokens h
    refine ⟨fun name hcycle => ?_, textIn done, spells_of_resolveTokens h, fun name hname => ?_⟩
    · obtain ⟨next, ⟨fragment, hfragment, -⟩, -⟩ := Relation.TransGen.head'_iff.mp hcycle
      have hname : tokens.contains name = true := by rw [Dictionary.contains, hfragment]; rfl
      exact hsettled.acyclic (hall name hname) hcycle
    · obtain ⟨text, htext⟩ := Option.isSome_iff_exists.mp (hall name hname)
      obtain ⟨-, -, -, -, hregex⟩ := hsettled.of_get? htext
      rwa [textIn_eq htext]
  · rintro ⟨hacyclic, spelled, hspelled, hregex⟩
    exact exists_resolveTokens hacyclic hspelled hregex

/-- A dictionary with all tokens has the text of every token and nothing else. -/
theorem Settled.get?_eq (h : Settled tokens done) (hspelled : Spells tokens spelled)
    (hall : ∀ name, tokens.contains name = true → (done.get? name).isSome = true)
    (name : String) :
    done.get? name = if tokens.contains name then some (spelled name) else none := by
  cases hname : tokens.contains name with
  | true =>
      obtain ⟨text, htext⟩ := Option.isSome_iff_exists.mp (hall name hname)
      rw [htext, h.eq_of_spells hspelled htext]
      rfl
  | false =>
      rw [if_neg (by simp), Option.eq_none_iff_forall_ne_some]
      intro text htext
      obtain ⟨fragment, hfragment, -⟩ := h.of_get? htext
      rw [Dictionary.contains, hfragment] at hname
      simp at hname

/-- The dictionary of a run that ends well has the text of every token and nothing
else. -/
theorem get?_of_resolveTokens (h : resolveTokens tokens = .ok done)
    (hspelled : Spells tokens spelled) (name : String) :
    done.get? name = if tokens.contains name then some (spelled name) else none := by
  obtain ⟨hsettled, hall⟩ := of_resolveTokens h
  exact hsettled.get?_eq hspelled hall name

end

end Trialbook.Rule

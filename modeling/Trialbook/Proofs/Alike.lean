import Trialbook.Pattern.Meaning
import Mathlib.Data.List.TakeWhile

/-!
# What the reader reads in place

A token's fragment stands in a rule's pattern between parentheses, with more of
the pattern behind it. Read there, it has to give what it gives between
parentheses alone. The reader looks ahead, and so this is a property of each of
its parts: what a part reads off a text it reads off the text with more behind
it, unless it reads the text to its end (`Alike`).

The exception is there for comments in verbose mode. A comment without an end of
line reads to the end of the text, and to the end of whatever is put behind it.
The reader looks no further ahead than a closing parenthesis. So it is enough that
the text ends with one (`Ends`) or, where there are no comments, that what is put
behind begins with one (`Shuts`).
-/

namespace Trialbook.Pattern.Reader

open Text (isWhite)

/-- A text that ends with a closing parenthesis if it has an end. -/
def Ends (u : Rest) : Prop := ∀ c ∈ u.getLast?, c = ')'

theorem Ends.of_suffix {u u' : Rest} (h : Ends u) (hsuffix : u' <:+ u) : Ends u' := by
  obtain ⟨front, rfl⟩ := hsuffix
  intro c hc
  refine h c ?_
  rw [List.getLast?_append, hc]
  rfl

theorem Ends.mem {u : Rest} (h : Ends u) (hne : u ≠ []) : ')' ∈ u := by
  have hlast := List.getLast?_eq_some_getLast hne
  have hc := h _ hlast
  rw [← hc]
  exact List.getLast_mem hne

theorem Ends.tail_ne_nil {c : Char} {u : Rest} (h : Ends (c :: u)) (hc : c ≠ ')') : u ≠ [] := by
  rintro rfl
  exact hc (h c rfl)

theorem ne_nil_of_suffix {u u' : Rest} (h : u' <:+ u) (hne : u' ≠ []) : u ≠ [] := by
  rintro rfl
  exact hne (List.suffix_nil.mp h)

/-! ## What does not count -/

variable {v : Bool} {u u' w : Rest}

theorem skipBlank_suffix (comment : Bool) (u : Rest) : skipBlank comment u <:+ u := by
  induction u generalizing comment with
  | nil => cases comment <;> exact List.suffix_refl _
  | cons c rest ih =>
      cases comment with
      | true =>
          rw [skipBlank]
          split
          · exact (ih false).trans (List.suffix_cons c rest)
          · exact (ih true).trans (List.suffix_cons c rest)
      | false =>
          rw [skipBlank]
          split
          · exact (ih false).trans (List.suffix_cons c rest)
          · split
            · exact (ih true).trans (List.suffix_cons c rest)
            · exact List.suffix_refl _

theorem skipBlank_append (comment : Bool) (h : skipBlank comment u ≠ []) (w : Rest) :
    skipBlank comment (u ++ w) = skipBlank comment u ++ w := by
  induction u generalizing comment with
  | nil => cases comment <;> exact absurd rfl h
  | cons c rest ih =>
      cases comment with
      | true =>
          rw [skipBlank] at h ⊢
          rw [List.cons_append, skipBlank]
          split at h
          · next hc => rw [if_pos hc, if_pos hc, ih false h]
          · next hc => rw [if_neg hc, if_neg hc, ih true h]
      | false =>
          rw [skipBlank] at h ⊢
          rw [List.cons_append, skipBlank]
          split at h
          · next hc => rw [if_pos hc, if_pos hc, ih false h]
          · next hc =>
              rw [if_neg hc, if_neg hc]
              split at h
              · next hc => rw [if_pos hc, if_pos hc, ih true h]
              · next hc => rw [if_neg hc, if_neg hc, List.cons_append]

theorem skipBlank_skipBlank (comment : Bool) (u : Rest) :
    skipBlank false (skipBlank comment u) = skipBlank comment u := by
  induction u generalizing comment with
  | nil => cases comment <;> rfl
  | cons c rest ih =>
      cases comment with
      | true =>
          rw [skipBlank]
          split
          · exact ih false
          · exact ih true
      | false =>
          rw [skipBlank]
          split
          · exact ih false
          · next hwhite =>
              split
              · exact ih true
              · next hhash => rw [skipBlank, if_neg hwhite, if_neg hhash]

theorem skip_suffix (v : Bool) (u : Rest) : skip v u <:+ u := by
  cases v with
  | true => exact skipBlank_suffix false u
  | false => exact List.suffix_refl u

theorem suffix_cons_of_skip (c : Char) (h : u' <:+ skip v u) : u' <:+ c :: u :=
  (h.trans (skip_suffix v u)).trans (List.suffix_cons c u)

theorem skip_append (h : skip v u ≠ []) (w : Rest) : skip v (u ++ w) = skip v u ++ w := by
  cases v with
  | true => exact skipBlank_append false h w
  | false => rfl

theorem skip_skip (v : Bool) (u : Rest) : skip v (skip v u) = skip v u := by
  cases v with
  | true => exact skipBlank_skipBlank false u
  | false => rfl

theorem skip_nil (v : Bool) : skip v [] = [] := by
  cases v <;> rfl

theorem skip_append_of_cons {c : Char} (h : skip v u = c :: u') (w : Rest) :
    skip v (u ++ w) = c :: (u' ++ w) := by
  have hne : skip v u ≠ [] := by
    rw [h]
    exact List.cons_ne_nil _ _
  rw [skip_append hne, h, List.cons_append]

theorem skip_cons_append {c : Char} (h : skip v (c :: u) = c :: u) (w : Rest) :
    skip v (c :: (u ++ w)) = c :: (u ++ w) :=
  skip_append_of_cons h w

/-! ## Reading alike -/

/-- A text that begins with a closing parenthesis, which no comment can swallow. -/
def Shuts (v : Bool) (w : Rest) : Prop := v = false ∧ w.head? = some ')'

theorem Shuts.exists_cons (h : Shuts v w) : ∃ rest, w = ')' :: rest :=
  List.head?_eq_some_iff.mp h.2

/-- The second text may stand behind the first one, which was read up to some rest: the
first ends with a closing parenthesis, and is not read to its end, or the second begins
with one. -/
def Joins (v : Bool) (u u' w : Rest) : Prop := (Ends u ∧ u' ≠ []) ∨ Shuts v w

namespace Joins

theorem of_suffix {mid : Rest} (h : Joins v u u' w) (hmid : mid <:+ u) : Joins v mid u' w :=
  h.imp_left fun hends => ⟨hends.1.of_suffix hmid, hends.2⟩

theorem mono {mid : Rest} (h : Joins v u u' w) (hmid : u' <:+ mid) : Joins v u mid w :=
  h.imp_left fun hends => ⟨hends.1, ne_nil_of_suffix hmid hends.2⟩

theorem goes_on (h : Joins v u u' w) : u' ≠ [] ∨ Shuts v w := h.imp_left And.right

/-- The first character of a text is not the parenthesis that all depends on. -/
theorem tail {c : Char} (h : Joins v (c :: u) (c :: u) w) (hc : c ≠ ')') : Joins v u u w :=
  h.imp_left fun hends => ⟨hends.1.of_suffix (List.suffix_cons c u), hends.1.tail_ne_nil hc⟩

end Joins

theorem skip_append_of_goes_on (h : skip v u ≠ [] ∨ Shuts v w) :
    skip v (u ++ w) = skip v u ++ w := by
  rcases h with h | ⟨rfl, -⟩
  · exact skip_append h w
  · rfl

/-- What the first reader reads off the text, the second reads off it with any text
behind that may stand there. -/
def Alike {α : Type} (v : Bool) (r r' : Rest → Option (α × Rest)) (u : Rest) : Prop :=
  ∀ x u', r u = some (x, u') →
    u' <:+ u ∧ ∀ w, Joins v u u' w → r' (u ++ w) = some (x, u' ++ w)

namespace Alike

variable {α β : Type} {r r' : Rest → Option (α × Rest)} {s s' : Rest → Option (β × Rest)}

theorem of_eq_none (h : r u = none) : Alike v r r' u := by
  intro x u' hread
  rw [h] at hread
  simp at hread

theorem pure (a : α) : Alike v (fun cs => some (a, cs)) (fun cs => some (a, cs)) u := by
  intro x u' h
  obtain ⟨rfl, rfl⟩ := Prod.mk.inj (Option.some.inj h)
  exact ⟨List.suffix_refl _, fun w _ => rfl⟩

/-- A reader that leaves an end of the text to another reader. -/
theorem of_suffix {q q' : Rest → Option (α × Rest)} {mid : Rest} (h : Alike v r r' mid)
    (hmid : mid <:+ u) (hq : q u = r mid)
    (hq' : ∀ w, Joins v u mid w → q' (u ++ w) = r' (mid ++ w)) : Alike v q q' u := by
  intro x u' hread
  rw [hq] at hread
  obtain ⟨hsuffix, happend⟩ := h x u' hread
  refine ⟨hsuffix.trans hmid, fun w hjoins => ?_⟩
  rw [hq' w (hjoins.mono hsuffix)]
  exact happend w (hjoins.of_suffix hmid)

theorem congr_of_joins {q q' : Rest → Option (α × Rest)} (h : Alike v r r' u) (hq : q u = r u)
    (hq' : ∀ w, Joins v u u w → q' (u ++ w) = r' (u ++ w)) : Alike v q q' u :=
  h.of_suffix (List.suffix_refl u) hq hq'

theorem congr {q q' : Rest → Option (α × Rest)} (h : Alike v r r' u) (hq : q u = r u)
    (hq' : ∀ w, q' (u ++ w) = r' (u ++ w)) : Alike v q q' u :=
  h.congr_of_joins hq fun w _ => hq' w

theorem cons_of_joins {q q' : Rest → Option (α × Rest)} {c : Char} (h : Alike v r r' u)
    (hq : q (c :: u) = r u)
    (hq' : ∀ w, Joins v (c :: u) (c :: u) w → q' (c :: (u ++ w)) = r' (u ++ w)) :
    Alike v q q' (c :: u) :=
  h.of_suffix (List.suffix_cons c u) hq fun w hjoins => hq' w (hjoins.mono (List.suffix_cons c u))

/-- The first character is taken, and the rest is left to another reader. -/
theorem cons {q q' : Rest → Option (α × Rest)} {c : Char} (h : Alike v r r' u)
    (hq : q (c :: u) = r u) (hq' : ∀ w, q' (c :: (u ++ w)) = r' (u ++ w)) :
    Alike v q q' (c :: u) :=
  h.cons_of_joins hq fun w _ => hq' w

theorem bind {g g' : α → Rest → Option (β × Rest)} (h : Alike v r r' u)
    (hg : ∀ a u', r u = some (a, u') → Alike v (g a) (g' a) u') :
    Alike v (fun cs => (r cs).bind fun p => g p.1 p.2)
      (fun cs => (r' cs).bind fun p => g' p.1 p.2) u := by
  intro x u' hread
  obtain ⟨⟨a, mid⟩, hfirst, hsecond⟩ := Option.bind_eq_some_iff.mp hread
  obtain ⟨hsuffix, happend⟩ := h a mid hfirst
  obtain ⟨hsuffix', happend'⟩ := hg a mid hfirst x u' hsecond
  refine ⟨hsuffix'.trans hsuffix, fun w hjoins => ?_⟩
  have hmid := happend w (hjoins.mono hsuffix')
  show (r' (u ++ w)).bind _ = _
  rw [hmid, Option.bind_some]
  exact happend' w (hjoins.of_suffix hsuffix)

theorem map (f : α → β) (h : Alike v r r' u) :
    Alike v (fun cs => (r cs).map fun p => (f p.1, p.2))
      (fun cs => (r' cs).map fun p => (f p.1, p.2)) u := by
  refine (h.bind fun a u' _ => pure (f a)).congr ?_ fun w => ?_
  · exact Option.map_eq_bind
  · exact Option.map_eq_bind

theorem skip (h : Alike v r r' (Reader.skip v u)) :
    Alike v (fun cs => r (Reader.skip v cs)) (fun cs => r' (Reader.skip v cs)) u := by
  intro x u' hread
  obtain ⟨hsuffix, happend⟩ := h x u' hread
  refine ⟨hsuffix.trans (skip_suffix v u), fun w hjoins => ?_⟩
  show r' (Reader.skip v (u ++ w)) = _
  rw [skip_append_of_goes_on (hjoins.mono hsuffix).goes_on]
  exact happend w (hjoins.of_suffix (skip_suffix v u))

theorem of_append (hsuffix : ∀ x u', r u = some (x, u') → u' <:+ u)
    (happend : ∀ w, Joins v u u w → r (u ++ w) = (r u).map fun p => (p.1, p.2 ++ w)) :
    Alike v r r u := by
  intro x u' hread
  refine ⟨hsuffix x u' hread, fun w hjoins => ?_⟩
  rw [happend w (hjoins.mono (hsuffix x u' hread)), hread]
  rfl

/-- At the end of the text nothing is taken, and in front of a parenthesis neither. -/
theorem nil (h : ∀ x u', r [] = some (x, u') → u' = [] ∧
    ∀ w, Shuts v w → r' w = some (x, w)) : Alike v r r' [] := by
  intro x u' hread
  obtain ⟨rfl, hshut⟩ := h x u' hread
  refine ⟨List.suffix_refl _, fun w hjoins => ?_⟩
  rcases hjoins with ⟨-, hne⟩ | hshuts
  · exact absurd rfl hne
  · exact hshut w hshuts

theorem ofOption (o : Option α) (f : α → β) :
    Alike v (fun cs => o.bind fun a => some (f a, cs)) (fun cs => o.bind fun a => some (f a, cs))
      u := by
  cases o with
  | none => exact of_eq_none rfl
  | some a => exact pure (f a)

/-- With the length of the text for fuel, more text means more fuel. -/
theorem of_fuel {f : Nat → Rest → Option (α × Rest)} (k : Nat)
    (h : ∀ fuel fuel', fuel ≤ fuel' → Alike v (f fuel) (f fuel') u) :
    Alike v (fun cs => f (cs.length + k) cs) (fun cs => f (cs.length + k) cs) u := by
  intro x u' hread
  -- `h` serves twice: at equal fuel for the suffix, at more fuel for the longer text
  refine ⟨(h _ _ (Nat.le_refl _) x u' hread).1, fun w hjoins => ?_⟩
  have hfuel : u.length + k ≤ (u ++ w).length + k := by
    rw [List.length_append]
    omega
  exact (h _ _ hfuel x u' hread).2 w hjoins

/-- A reader that skips first need only be looked at where there is nothing to
skip. -/
theorem of_skipped (hr : ∀ cs, r (Reader.skip v cs) = r cs)
    (hr' : ∀ cs, r' (Reader.skip v cs) = r' cs)
    (h : ∀ cs, Reader.skip v cs = cs → Alike v r r' cs) : Alike v r r' u :=
  (h _ (skip_skip v u)).skip.congr (hr u).symm fun w => (hr' (u ++ w)).symm

end Alike

/-! ## Numbers -/

theorem fixedHex_alike (v : Bool) (count value : Nat) (u : Rest) :
    Alike v (fixedHex v count value) (fixedHex v count value) u := by
  induction count generalizing value u with
  | zero => exact Alike.pure value
  | succ count ih =>
      cases u with
      | nil => exact .of_eq_none rfl
      | cons c rest =>
          cases hdigit : hexDigit? c with
          | none => exact .of_eq_none (by simp [fixedHex, hdigit])
          | some digit =>
              exact (ih (value * 16 + digit) (skip v rest)).skip.cons
                (by simp [fixedHex, hdigit]) (by simp [fixedHex, hdigit])

theorem bracedHex_alike {fuel fuel' : Nat} (hfuel : fuel ≤ fuel') (value : Option Nat) (u : Rest) :
    Alike v (bracedHex v fuel value) (bracedHex v fuel' value) u := by
  induction fuel generalizing fuel' value u with
  | zero => exact .of_eq_none rfl
  | succ fuel ih =>
      obtain ⟨fuel', rfl⟩ : ∃ k, fuel' = k + 1 := ⟨fuel' - 1, by omega⟩
      refine .of_skipped (v := v) (fun cs => by simp only [bracedHex, skip_skip])
        (fun cs => by simp only [bracedHex, skip_skip]) fun cs hcs => ?_
      cases cs with
      | nil => exact .of_eq_none (by simp only [bracedHex, hcs])
      | cons c rest =>
          by_cases hc : c = '\x7d'
          · subst hc
            cases value with
            | none => exact .of_eq_none (by simp [bracedHex, hcs])
            | some value =>
                refine ((Alike.pure value).skip (v := v)).cons ?_ fun w => ?_
                · simp only [bracedHex, hcs]
                  rfl
                · simp only [bracedHex, skip_cons_append hcs]
                  rfl
          · cases hdigit : hexDigit? c with
            | none => exact .of_eq_none (by simp [bracedHex, hcs, hdigit])
            | some digit =>
                have hle : fuel ≤ fuel' := by omega
                refine (ih hle (some (value.getD 0 * 16 + digit)) rest).cons ?_ fun w => ?_
                · simp [bracedHex, hcs, hdigit]
                · simp [bracedHex, skip_cons_append hcs, hdigit]

/-- Fuel for a text is fuel for what is left of it behind a character and what
does not count. -/
theorem exists_fuel_of_skip {c : Char} {fuel : Nat} (hskip : skip v (u ++ w) = u' ++ w)
    (hfuel : (c :: u ++ w).length ≤ fuel) : ∃ k, fuel = k + 1 ∧ (u' ++ w).length ≤ k := by
  have hlength := (skip_suffix v (u ++ w)).length_le
  rw [hskip] at hlength
  rw [List.cons_append, List.length_cons] at hfuel
  exact ⟨fuel - 1, by omega, by omega⟩

theorem digitRun_append {fuel : Nat} {value n : Option Nat} (hfuel : u.length ≤ fuel)
    (h : digitRun v fuel value u = (n, u')) :
    u' <:+ u ∧ ∀ w, u' ≠ [] ∨ Shuts v w → ∀ fuel', (u ++ w).length ≤ fuel' →
      digitRun v fuel' value (u ++ w) = (n, u' ++ w) := by
  have hdone : ∀ w, (([] : Rest) ≠ [] ∨ Shuts v w) → ∀ (value : Option Nat) fuel',
      w.length ≤ fuel' → digitRun v fuel' value w = (value, w) := by
    intro w hgo value fuel' hfuel'
    obtain ⟨rest, rfl⟩ := (hgo.resolve_left fun hne => hne rfl).exists_cons
    cases fuel' with
    | zero => simp at hfuel'
    | succ fuel' => rw [digitRun, if_neg (by decide)]
  induction fuel generalizing value u with
  | zero =>
      obtain rfl := List.length_eq_zero_iff.mp (Nat.le_zero.mp hfuel)
      obtain ⟨rfl, rfl⟩ := Prod.mk.inj h
      exact ⟨List.suffix_refl _, fun w hgo fuel' => hdone w hgo _ fuel'⟩
  | succ fuel ih =>
      cases u with
      | nil =>
          obtain ⟨rfl, rfl⟩ := Prod.mk.inj h
          exact ⟨List.suffix_refl _, fun w hgo fuel' => hdone w hgo _ fuel'⟩
      | cons c rest =>
          rw [List.length_cons] at hfuel
          rw [digitRun] at h
          split at h
          · next hdigit =>
              have hlength := (skip_suffix v rest).length_le
              obtain ⟨hsuffix, happend⟩ := ih (by omega) h
              refine ⟨suffix_cons_of_skip c hsuffix, fun w hgo fuel' hfuel' => ?_⟩
              have hskip := skip_append_of_goes_on (hgo.imp_left (ne_nil_of_suffix hsuffix))
              obtain ⟨k, rfl, hk⟩ := exists_fuel_of_skip hskip hfuel'
              rw [List.cons_append, digitRun, if_pos hdigit, hskip]
              exact happend w hgo k hk
          · next hdigit =>
              obtain ⟨rfl, rfl⟩ := Prod.mk.inj h
              refine ⟨List.suffix_refl _, fun w _ fuel' hfuel' => ?_⟩
              cases fuel' with
              | zero => rfl
              | succ fuel' => rw [List.cons_append, digitRun, if_neg hdigit]

theorem whiteRun_append {fuel : Nat} (hfuel : u.length ≤ fuel) :
    whiteRun v fuel u <:+ u ∧ ∀ w, whiteRun v fuel u ≠ [] ∨ Shuts v w → ∀ fuel',
      (u ++ w).length ≤ fuel' → whiteRun v fuel' (u ++ w) = whiteRun v fuel u ++ w := by
  have hdone : ∀ w, (([] : Rest) ≠ [] ∨ Shuts v w) → ∀ fuel', whiteRun v fuel' w = w := by
    intro w hgo fuel'
    obtain ⟨rest, rfl⟩ := (hgo.resolve_left fun hne => hne rfl).exists_cons
    cases fuel' with
    | zero => rfl
    | succ fuel' => rw [whiteRun, if_neg (by decide)]
  induction fuel generalizing u with
  | zero =>
      obtain rfl := List.length_eq_zero_iff.mp (Nat.le_zero.mp hfuel)
      exact ⟨List.suffix_refl _, fun w hgo fuel' _ => hdone w hgo fuel'⟩
  | succ fuel ih =>
      cases u with
      | nil => exact ⟨List.suffix_refl _, fun w hgo fuel' _ => hdone w hgo fuel'⟩
      | cons c rest =>
          rw [List.length_cons] at hfuel
          rw [whiteRun]
          split
          · next hwhite =>
              have hlength := (skip_suffix v rest).length_le
              obtain ⟨hsuffix, happend⟩ := ih (u := skip v rest) (by omega)
              refine ⟨suffix_cons_of_skip c hsuffix, fun w hgo fuel' hfuel' => ?_⟩
              have hskip := skip_append_of_goes_on (hgo.imp_left (ne_nil_of_suffix hsuffix))
              obtain ⟨k, rfl, hk⟩ := exists_fuel_of_skip hskip hfuel'
              rw [List.cons_append, whiteRun, if_pos hwhite, hskip]
              exact happend w hgo k hk
          · next hwhite =>
              refine ⟨List.suffix_refl _, fun w _ fuel' hfuel' => ?_⟩
              cases fuel' with
              | zero => rfl
              | succ fuel' => rw [List.cons_append, whiteRun, if_neg hwhite]

theorem dropWhile_append (p : Char → Bool) (h : u.dropWhile p ≠ []) (w : Rest) :
    (u ++ w).dropWhile p = u.dropWhile p ++ w := by
  rw [List.dropWhile_append, if_neg (by simpa using h)]

theorem takeWhile_append (p : Char → Bool) (h : u.dropWhile p ≠ []) (w : Rest) :
    (u ++ w).takeWhile p = u.takeWhile p := by
  rw [List.takeWhile_append, if_neg]
  intro hlength
  have hsplit := congrArg List.length (List.takeWhile_append_dropWhile (p := p) (l := u))
  rw [List.length_append, hlength] at hsplit
  exact h (List.length_eq_zero_iff.mp (by omega))

/-- White space ends where the text does, if a closing parenthesis stands there. -/
theorem dropWhile_white_append (h : u.dropWhile isWhite ≠ [] ∨ Shuts v w) :
    (u ++ w).dropWhile isWhite = u.dropWhile isWhite ++ w := by
  rcases h with h | h
  · exact dropWhile_append _ h w
  · obtain ⟨rest, rfl⟩ := h.exists_cons
    rw [List.dropWhile_append]
    split
    · next hnil => rw [List.isEmpty_iff.mp hnil, List.dropWhile_cons_of_neg (by decide)]; rfl
    · rfl

theorem decimal_alike (v : Bool) (u : Rest) : Alike v (decimal v) (decimal v) u := by
  intro n u' h
  rw [decimal] at h
  have hdrop : u.dropWhile isWhite <:+ u := List.dropWhile_suffix _
  cases hrun : digitRun v (u.dropWhile isWhite).length none (u.dropWhile isWhite) with
  | mk found mid =>
      rw [hrun] at h
      obtain ⟨hsuffix, happend⟩ := digitRun_append (Nat.le_refl _) hrun
      cases found with
      | none => simp at h
      | some m =>
          dsimp only at h
          split at h
          · next hsmall =>
              obtain ⟨rfl, rfl⟩ := Prod.mk.inj (Option.some.inj h)
              obtain ⟨hwhite, happend'⟩ := whiteRun_append (v := v) (Nat.le_refl mid.length)
              refine ⟨(hwhite.trans hsuffix).trans hdrop, fun w hjoins => ?_⟩
              have hmid := (hjoins.mono hwhite).goes_on
              rw [decimal, dropWhile_white_append (hmid.imp_left (ne_nil_of_suffix hsuffix)),
                happend w hmid _ (Nat.le_refl _)]
              dsimp only
              rw [if_pos hsmall, happend' w hjoins.goes_on _ (Nat.le_refl _)]
          · simp at h

/-! ## Escapes -/

theorem hexEscape_alike (v : Bool) (digits : Nat) (u : Rest) :
    Alike v (hexEscape v digits) (hexEscape v digits) u := by
  refine .of_skipped (v := v) (fun cs => by simp only [hexEscape, skip_skip])
    (fun cs => by simp only [hexEscape, skip_skip]) fun cs hcs => ?_
  cases cs with
  | nil => exact .of_eq_none (by simp only [hexEscape, hcs])
  | cons c rest =>
      by_cases hc : c = '\x7b'
      · subst hc
        have hbraced := Alike.of_fuel 1 fun fuel fuel' hfuel =>
          bracedHex_alike (v := v) hfuel none rest
        refine (hbraced.bind fun n _ _ => .ofOption (char? n) (Literal.mk · false)).cons ?_
          fun w => ?_
        · simp only [hexEscape, hcs]
          rfl
        · simp only [hexEscape, skip_cons_append hcs]
          rfl
      · refine ((fixedHex_alike v digits 0 (c :: rest)).bind fun n _ _ =>
          .ofOption (char? n) (Literal.mk · (digits = 2))).congr ?_ fun w => ?_
        · simp [hexEscape, hcs, hc]
        · simp [hexEscape, skip_cons_append hcs, hc]

theorem braced_alike {fuel fuel' : Nat} (hfuel : fuel ≤ fuel') (taken : List Char) (u : Rest) :
    Alike v (braced v fuel taken) (braced v fuel' taken) u := by
  induction fuel generalizing fuel' taken u with
  | zero => exact .of_eq_none rfl
  | succ fuel ih =>
      obtain ⟨fuel', rfl⟩ : ∃ k, fuel' = k + 1 := ⟨fuel' - 1, by omega⟩
      refine .of_skipped (v := v) (fun cs => by simp only [braced, skip_skip])
        (fun cs => by simp only [braced, skip_skip]) fun cs hcs => ?_
      cases cs with
      | nil => exact .of_eq_none (by simp only [braced, hcs])
      | cons c rest =>
          by_cases hc : c = '\x7d'
          · subst hc
            refine (Alike.pure taken.reverse).cons ?_ fun w => ?_
            · simp only [braced, hcs]
            · simp only [braced, skip_cons_append hcs]
          · have hle : fuel ≤ fuel' := by omega
            refine (ih hle (c :: taken) rest).cons ?_ fun w => ?_
            · simp [braced, hcs]
            · simp [braced, skip_cons_append hcs]

theorem propertyEscape_alike (v negated : Bool) (u : Rest) :
    Alike v (propertyEscape v negated) (propertyEscape v negated) u := by
  refine .of_skipped (v := v) (fun cs => by simp only [propertyEscape, skip_skip])
    (fun cs => by simp only [propertyEscape, skip_skip]) fun cs hcs => ?_
  cases cs with
  | nil => exact .of_eq_none (by simp only [propertyEscape, hcs])
  | cons c rest =>
      by_cases hc : c = '\x7b'
      · subst hc
        have hbraced := Alike.of_fuel 1 fun fuel fuel' hfuel =>
          braced_alike (v := v) hfuel [] rest
        refine (hbraced.bind fun name _ _ =>
          .pure (propertyClass negated name)).cons ?_ fun w => ?_
        · simp only [propertyEscape, hcs]
          rfl
        · simp only [propertyEscape, skip_cons_append hcs]
          rfl
      · by_cases hslash : c = '\\'
        · subst hslash
          exact .of_eq_none (by simp [propertyEscape, hcs])
        · refine (Alike.pure (ClassTree.property c.toString negated)).cons ?_ fun w => ?_
          · simp [propertyEscape, hcs, hslash]
          · simp [propertyEscape, skip_cons_append hcs, hslash]

theorem boundaryName_alike {fuel fuel' : Nat} (hfuel : fuel ≤ fuel') (taken : List Char)
    (u : Rest) : Alike v (boundaryName v fuel taken) (boundaryName v fuel' taken) u := by
  induction fuel generalizing fuel' taken u with
  | zero => exact .of_eq_none rfl
  | succ fuel ih =>
      obtain ⟨fuel', rfl⟩ : ∃ k, fuel' = k + 1 := ⟨fuel' - 1, by omega⟩
      cases u with
      | nil => exact .of_eq_none rfl
      | cons c rest =>
          by_cases hc : c = '\x7d'
          · subst hc
            exact (Alike.pure (String.ofList taken.reverse)).cons rfl fun w => rfl
          · by_cases hname : isBoundaryName c
            · have hle : fuel ≤ fuel' := by omega
              refine (ih hle (c :: taken) (skip v rest)).skip.cons ?_ fun w => ?_
              · simp [boundaryName, hname]
              · simp [boundaryName, hname]
            · exact .of_eq_none (by simp [boundaryName, hname])

/-- The positions that braces can narrow a word boundary down to. -/
def narrowed? (name : String) : Option Position :=
  match name with
  | "start" => some .wordStart
  | "end" => some .wordEnd
  | "start-half" => some .wordStartHalf
  | "end-half" => some .wordEndHalf
  | _ => none

theorem boundaryEscape_brace {c : Char} {inner : Rest} (hskip : skip v u = c :: inner)
    (hname : isBoundaryName c) :
    boundaryEscape v ('\x7b' :: u) =
      (boundaryName v ((skip v u).length + 1) [] (skip v u)).bind fun p =>
        (narrowed? p.1).bind fun position => some (position, p.2) := by
  simp only [boundaryEscape, hskip, hname, Bool.not_true, Bool.false_eq_true, if_false]
  refine Option.bind_congr fun p _ => ?_
  obtain ⟨name, rest⟩ := p
  unfold narrowed?
  dsimp only
  split <;> simp

theorem boundaryEscape_alike (v : Bool) (u : Rest) :
    Alike v (boundaryEscape v) (boundaryEscape v) u := by
  cases u with
  | nil =>
      refine .nil fun x u' h => ?_
      obtain ⟨rfl, rfl⟩ := Prod.mk.inj (Option.some.inj h)
      refine ⟨rfl, fun w hshuts => ?_⟩
      obtain ⟨rest, rfl⟩ := hshuts.exists_cons
      rfl
  | cons c rest =>
      by_cases hc : c = '\x7b'
      · subst hc
        cases hskip : skip v rest with
        | nil => exact .of_eq_none (by simp [boundaryEscape, hskip])
        | cons d inner =>
            have happend := skip_append_of_cons hskip
            by_cases hname : isBoundaryName d
            · have hread := Alike.of_fuel 1 fun fuel fuel' hfuel =>
                boundaryName_alike (v := v) hfuel [] (skip v rest)
              exact (hread.bind fun name _ _ => .ofOption (narrowed? name) id).skip.cons
                (boundaryEscape_brace hskip hname)
                fun w => boundaryEscape_brace (happend w) hname
            · refine (Alike.pure Position.wordBoundary).congr ?_ fun w => ?_
              · simp [boundaryEscape, hskip, hname]
              · simp [boundaryEscape, happend, hname]
      · refine (Alike.pure Position.wordBoundary).congr ?_ fun w => ?_
        · simp [boundaryEscape, hc]
        · simp [boundaryEscape, hc]

/-- What a character means behind a backslash. -/
inductive EscapeKind where
  | tree (tree : Tree)
  | code (digits : Nat)
  | property (negated : Bool)
  | boundary

/-- The meaning of a character behind a backslash, if it has one. -/
def escapeKind? (c : Char) : Option EscapeKind :=
  if isEscapable c then some (.tree (.literal ⟨c, false⟩))
  else match c with
    | 'x' => some (.code 2)
    | 'u' => some (.code 4)
    | 'U' => some (.code 8)
    | 'p' => some (.property false)
    | 'P' => some (.property true)
    | 'd' => some (.tree (.cls (.short .digit false)))
    | 'D' => some (.tree (.cls (.short .digit true)))
    | 's' => some (.tree (.cls (.short .space false)))
    | 'S' => some (.tree (.cls (.short .space true)))
    | 'w' => some (.tree (.cls (.short .word false)))
    | 'W' => some (.tree (.cls (.short .word true)))
    | 'a' => some (.tree (.literal ⟨'\x07', false⟩))
    | 'f' => some (.tree (.literal ⟨'\x0c', false⟩))
    | 't' => some (.tree (.literal ⟨'\t', false⟩))
    | 'n' => some (.tree (.literal ⟨'\n', false⟩))
    | 'r' => some (.tree (.literal ⟨'\r', false⟩))
    | 'v' => some (.tree (.literal ⟨'\x0b', false⟩))
    | 'A' => some (.tree (.position .textStart))
    | 'z' => some (.tree (.position .textEnd))
    | 'B' => some (.tree (.position .notWordBoundary))
    | '<' => some (.tree (.position .wordStart))
    | '>' => some (.tree (.position .wordEnd))
    | 'b' => some .boundary
    | _ => none

theorem escapeKind?_of_isEscapable {c : Char} (h : isEscapable c = true) :
    escapeKind? c = some (.tree (.literal ⟨c, false⟩)) := by
  unfold escapeKind?
  exact if_pos h

/-- What stands behind a backslash and the character after it. -/
def EscapeKind.read (v : Bool) : EscapeKind → Rest → Option (Tree × Rest)
  | .tree t, cs => some (t, cs)
  | .code digits, cs => (hexEscape v digits cs).map fun p => (.literal p.1, p.2)
  | .property negated, cs => (propertyEscape v negated cs).map fun p => (.cls p.1, p.2)
  | .boundary, cs => (boundaryEscape v cs).map fun p => (.position p.1, p.2)

theorem escape_cons (v : Bool) (c : Char) (cs : Rest) :
    escape v (c :: cs) = (escapeKind? c).bind fun kind => kind.read v cs := by
  unfold escape escapeKind?
  dsimp only
  split
  · rfl
  · split <;> simp [EscapeKind.read]

theorem EscapeKind.read_alike (v : Bool) (kind : EscapeKind) (u : Rest) :
    Alike v (kind.read v) (kind.read v) u := by
  cases kind with
  | tree t => exact .pure t
  | code digits => exact (hexEscape_alike v digits u).map _
  | property negated => exact (propertyEscape_alike v negated u).map _
  | boundary => exact (boundaryEscape_alike v u).map _

theorem escape_alike (v : Bool) (u : Rest) : Alike v (escape v) (escape v) u := by
  cases u with
  | nil => exact .of_eq_none rfl
  | cons c rest =>
      cases hkind : escapeKind? c with
      | none => exact .of_eq_none (by rw [escape_cons, hkind, Option.bind_none])
      | some kind =>
          refine (kind.read_alike v rest).cons ?_ fun w => ?_
          · rw [escape_cons, hkind, Option.bind_some]
          · rw [escape_cons, hkind, Option.bind_some]

end Trialbook.Pattern.Reader

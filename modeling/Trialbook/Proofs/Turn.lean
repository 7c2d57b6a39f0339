import Trialbook.Proofs.Brackets

/-!
# Turns of the reader

The loop of the reader takes an item off the text and lets its state take it, and
then it goes on. Said so, by `loop_cons` and `loop_nil`, the loop needs no look at
its branches: what holds of every item holds of a run by induction on the turns,
and `exists_turn` takes a run apart.
-/

namespace Trialbook.Pattern.Reader

variable {v : Bool} {u u' w : Rest}

/-! ## Groups and repetitions -/

theorem flags_alike (on : Bool) (last : Option Char) (taken : List FlagChange) (u : Rest) :
    Alike v (flags on last taken) (flags on last taken) u := by
  induction u generalizing on last taken with
  | nil => exact .of_eq_none rfl
  | cons c rest ih =>
      by_cases hend : c = ':' ∨ c = ')'
      · by_cases hlast : last = some '-'
        · exact .of_eq_none (by simp [flags, hend, hlast])
        · refine (Alike.pure taken.reverse).congr ?_ fun w => ?_
          · simp [flags, hend, hlast]
          · simp [flags, hend, hlast]
      · by_cases hminus : c = '-'
        · subst hminus
          cases on with
          | false => exact .of_eq_none (by simp [flags])
          | true => exact (ih false (some '-') taken).cons (by simp [flags]) (by simp [flags])
        · cases hflag : flag? c with
          | none => exact .of_eq_none (by simp [flags, hend, hminus, hflag])
          | some f =>
              by_cases hknown : taken.any (·.flag == f) = true
              · refine .of_eq_none ?_
                rw [flags, if_neg hend, if_neg hminus, hflag]
                exact if_pos hknown
              · refine (ih on (some c) (⟨f, on⟩ :: taken)).cons ?_ fun w => ?_
                · rw [flags, if_neg hend, if_neg hminus, hflag]
                  exact if_neg hknown
                · rw [flags, if_neg hend, if_neg hminus, hflag]
                  exact if_neg hknown

/-- The text as the name of a group, if it can be one. -/
def checkedName (name : List Char) : Option String :=
  match name with
  | [] => none
  | first :: others =>
    if startsName first && others.all continuesName then some (String.ofList name) else none

theorem groupName_eq (u : Rest) :
    groupName u = match u.dropWhile (· != '>') with
      | [] => none
      | _ :: rest => (checkedName (u.takeWhile (· != '>'))).bind fun name => some (name, rest) := by
  unfold groupName checkedName
  dsimp only
  cases u.takeWhile (· != '>') with
  | nil => cases u.dropWhile (· != '>') <;> rfl
  | cons first others =>
      cases u.dropWhile (· != '>') with
      | nil => rfl
      | cons c rest =>
          dsimp only
          split <;> rfl

theorem groupName_alike (u : Rest) : Alike v groupName groupName u := by
  intro name u' h
  rw [groupName_eq] at h
  cases hdrop : u.dropWhile (· != '>') with
  | nil => simp [hdrop] at h
  | cons c rest =>
      rw [hdrop] at h
      obtain ⟨found, hfound, h⟩ := Option.bind_eq_some_iff.mp h
      obtain ⟨rfl, rfl⟩ := Prod.mk.inj (Option.some.inj h)
      have hne : u.dropWhile (· != '>') ≠ [] := by simp [hdrop]
      refine ⟨?_, fun w _ => ?_⟩
      · have hsuffix : u.dropWhile (· != '>') <:+ u := List.dropWhile_suffix _
        rw [hdrop] at hsuffix
        exact (List.suffix_cons _ _).trans hsuffix
      · rw [groupName_eq, dropWhile_append _ hne, hdrop, takeWhile_append _ hne, hfound]
        rfl

/-- Whether a text goes on as an assertion about what stands around a place. -/
def looksAround (cs : Rest) : Bool :=
  (after? "?=" cs).isSome || (after? "?!" cs).isSome || (after? "?<=" cs).isSome ||
    (after? "?<!" cs).isSome

theorem looksAround_append (hjoins : Joins v u u w) : looksAround (u ++ w) = looksAround u := by
  simp only [looksAround]
  rw [after?_append (by decide) hjoins, after?_append (by decide) hjoins,
    after?_append (by decide) hjoins, after?_append (by decide) hjoins]
  simp only [Option.isSome_map]

/-- The text behind the mark of a named group. -/
def afterName? (cs : Rest) : Option Rest := (after? "?P<" cs).or (after? "?<" cs)

theorem afterName?_append (hjoins : Joins v u u w) :
    afterName? (u ++ w) = (afterName? u).map (· ++ w) := by
  rw [afterName?, afterName?, after?_append (by decide) hjoins,
    after?_append (by decide) hjoins]
  cases after? "?P<" u <;> rfl

theorem afterName?_suffix (h : afterName? u = some u') : u' <:+ u := by
  rw [afterName?] at h
  cases hlong : after? "?P<" u with
  | none =>
      rw [hlong, Option.none_or] at h
      exact after?_suffix h
  | some rest =>
      rw [hlong, Option.some_or] at h
      obtain rfl := Option.some.inj h
      exact after?_suffix hlong

/-- What flags between parentheses are for: the rest of the enclosing group, or
a group of their own. -/
def openFlags (changes : List FlagChange) (cs : Rest) : Option (Opening × Rest) :=
  match cs with
  | ')' :: rest => if changes.isEmpty then none else some (.flags changes, rest)
  | _ :: rest => some (.group (.plain changes), rest)
  | [] => none

theorem openFlags_alike (changes : List FlagChange) (u : Rest) :
    Alike v (openFlags changes) (openFlags changes) u := by
  cases u with
  | nil => exact .of_eq_none rfl
  | cons c rest =>
      by_cases hc : c = ')'
      · subst hc
        cases hempty : changes.isEmpty with
        | true => exact .of_eq_none (by simp [openFlags, hempty])
        | false =>
            refine (Alike.pure (Opening.flags changes)).cons ?_ fun w => ?_
            · simp [openFlags, hempty]
            · simp [openFlags, hempty]
      · refine (Alike.pure (Opening.group (.plain changes))).cons ?_ fun w => ?_
        · simp [openFlags]
        · simp [openFlags]

theorem opening_eq (hskip : skip v u = u) :
    opening v u =
      if looksAround u then none
      else match afterName? u, after? "?" u with
        | some rest, _ => (groupName rest).map fun p => (.group (.named p.1), p.2)
        | none, some rest => (flags true none [] rest).bind fun p => openFlags p.1 p.2
        | none, none => some (.group .numbered, u) := by
  unfold opening looksAround afterName?
  rw [hskip]
  dsimp only
  split
  · rfl
  · cases (after? "?P<" u).or (after? "?<" u) with
    | some rest =>
        dsimp only
        cases groupName rest <;> rfl
    | none =>
        cases after? "?" u with
        | none => rfl
        | some rest =>
            refine Option.bind_congr fun p _ => ?_
            obtain ⟨changes, cs⟩ := p
            unfold openFlags
            dsimp only
            split <;> simp_all

theorem opening_alike (v : Bool) (u : Rest) : Alike v (opening v) (opening v) u := by
  refine .of_skipped (v := v) (fun cs => by simp only [opening, skip_skip])
    (fun cs => by simp only [opening, skip_skip]) fun cs hcs => ?_
  cases cs with
  | nil =>
      refine .nil fun x u' h => ?_
      obtain ⟨rfl, rfl⟩ := Prod.mk.inj (Option.some.inj ((opening_eq hcs).symm.trans h))
      refine ⟨rfl, fun w ⟨hv, hshuts⟩ => ?_⟩
      obtain ⟨rest, rfl⟩ := List.head?_eq_some_iff.mp hshuts
      subst hv
      exact opening_eq rfl
  | cons c rest =>
      have hcs' : ∀ w, skip v (c :: rest ++ w) = c :: rest ++ w := skip_cons_append hcs
      cases hlook : looksAround (c :: rest) with
      | true => exact .of_eq_none (by rw [opening_eq hcs, hlook, if_pos rfl])
      | false =>
          cases hname : afterName? (c :: rest) with
          | some behind =>
              have hsuffix := afterName?_suffix hname
              refine ((groupName_alike behind).map fun name =>
                Opening.group (.named name)).of_suffix hsuffix ?_ fun w hjoins => ?_
              · rw [opening_eq hcs, hlook, hname]
                rfl
              · have hjoins := hjoins.mono hsuffix
                rw [opening_eq (hcs' w), looksAround_append hjoins, hlook,
                  afterName?_append hjoins, hname]
                rfl
          | none =>
              cases hmark : after? "?" (c :: rest) with
              | some behind =>
                  have hsuffix := after?_suffix hmark
                  refine ((flags_alike true none [] behind).bind fun changes mid _ =>
                    openFlags_alike changes mid).of_suffix hsuffix ?_ fun w hjoins => ?_
                  · rw [opening_eq hcs, hlook, hname, hmark]
                    rfl
                  · have hjoins := hjoins.mono hsuffix
                    rw [opening_eq (hcs' w), looksAround_append hjoins, hlook,
                      afterName?_append hjoins, hname, after?_append (by decide) hjoins, hmark]
                    rfl
              | none =>
                  refine (Alike.pure (Opening.group .numbered)).congr_of_joins ?_ fun w hjoins => ?_
                  · rw [opening_eq hcs, hlook, hname, hmark]
                    rfl
                  · rw [opening_eq (hcs' w), looksAround_append hjoins, hlook,
                      afterName?_append hjoins, hname, after?_append (by decide) hjoins, hmark]
                    rfl

theorem greed_alike (u : Rest) :
    Alike v (fun cs => some (greed cs)) (fun cs => some (greed cs)) u := by
  cases u with
  | nil =>
      refine .nil fun x u' h => ?_
      obtain ⟨rfl, rfl⟩ := Prod.mk.inj (Option.some.inj h)
      refine ⟨rfl, fun w hshuts => ?_⟩
      obtain ⟨rest, rfl⟩ := hshuts.exists_cons
      rfl
  | cons c rest =>
      by_cases hc : c = '?'
      · subst hc
        exact (Alike.pure false).cons rfl fun w => rfl
      · refine (Alike.pure true).congr ?_ fun w => ?_
        · simp [greed, hc]
        · simp [greed, hc]

/-- The upper bound between braces and the closing one, behind the lower bound. -/
def countsTail (v : Bool) (least : Nat) (cs : Rest) : Option (Option Nat × Rest) :=
  match cs with
  | ',' :: rest =>
    match skip v rest with
    | '\x7d' :: _ => some (none, skip v rest)
    | rest => (decimal v rest).map fun p => (some p.1, p.2)
  | cs => some (some least, cs)

/-- The closing brace behind the bounds. -/
def countsEnd (v : Bool) (least : Nat) (most : Option Nat) (cs : Rest) :
    Option ((Nat × Option Nat) × Rest) :=
  match cs with
  | '\x7d' :: rest => if most.all (least ≤ ·) then some ((least, most), skip v rest) else none
  | _ => none

theorem countsTail_of_ne {least : Nat} (h : ∀ rest, u = ',' :: rest → False) :
    countsTail v least u = some (some least, u) := by
  unfold countsTail
  split
  · next rest => exact (h rest rfl).elim
  · rfl

theorem countsTail_comma {least : Nat} (h : ∀ rest, skip v u = '\x7d' :: rest → False) :
    countsTail v least (',' :: u) = (decimal v (skip v u)).map fun p => (some p.1, p.2) := by
  rw [countsTail]
  split
  · next rest hskip => exact (h rest hskip).elim
  · rfl

theorem counts_eq (v : Bool) (u : Rest) :
    counts v u = (decimal v (skip v u)).bind fun p =>
      (countsTail v p.1 p.2).bind fun q => countsEnd v p.1 q.1 q.2 := by
  unfold counts
  refine Option.bind_congr fun p _ => ?_
  obtain ⟨least, cs⟩ := p
  dsimp only
  split
  · split
    · next hskip =>
        rw [countsTail, hskip]
        rfl
    · next hopen =>
        rw [countsTail_comma hopen]
        rfl
  · next hne =>
      rw [countsTail_of_ne hne]
      rfl

theorem countsTail_alike (v : Bool) (least : Nat) (u : Rest) :
    Alike v (countsTail v least) (countsTail v least) u := by
  cases u with
  | nil =>
      refine .nil fun x u' h => ?_
      obtain ⟨rfl, rfl⟩ := Prod.mk.inj (Option.some.inj h)
      refine ⟨rfl, fun w hshuts => ?_⟩
      obtain ⟨rest, rfl⟩ := hshuts.exists_cons
      rfl
  | cons c rest =>
      by_cases hc : c = ','
      · subst hc
        cases hskip : skip v rest with
        | nil => exact .of_eq_none (by simp [countsTail, hskip, decimal, digitRun])
        | cons d inner =>
            have happend := skip_append_of_cons hskip
            by_cases hd : d = '\x7d'
            · subst hd
              refine ((Alike.pure none).skip (v := v)).cons ?_ fun w => ?_
              · simp [countsTail, hskip]
              · simp [countsTail, happend]
            · refine ((decimal_alike v (skip v rest)).map some).skip.cons ?_ fun w => ?_
              · simp [countsTail, hskip, hd]
              · simp [countsTail, happend, hd]
      · refine (Alike.pure (some least)).congr ?_ fun w => ?_
        · simp [countsTail, hc]
        · simp [countsTail, hc]

theorem countsEnd_alike (v : Bool) (least : Nat) (most : Option Nat) (u : Rest) :
    Alike v (countsEnd v least most) (countsEnd v least most) u := by
  cases u with
  | nil => exact .of_eq_none rfl
  | cons c rest =>
      by_cases hc : c = '\x7d'
      · subst hc
        by_cases hle : most.all (least ≤ ·) = true
        · refine ((Alike.pure (least, most)).skip (v := v)).cons ?_ fun w => ?_
          · exact if_pos hle
          · exact if_pos hle
        · exact .of_eq_none (if_neg hle)
      · exact .of_eq_none (by simp [countsEnd, hc])

theorem counts_alike (v : Bool) (u : Rest) : Alike v (counts v) (counts v) u :=
  ((decimal_alike v (skip v u)).skip.bind fun least mid _ =>
    (countsTail_alike v least mid).bind fun most behind _ =>
      countsEnd_alike v least most behind).congr (counts_eq v u) fun w => counts_eq v (u ++ w)

/-! ## Turns -/

/-- What one turn of the reader takes off the text. -/
inductive Item where
  | part (tree : Tree)
  | flags (changes : List FlagChange)
  | enter (kind : GroupKind)
  | leave
  | bar
  | again (least : Nat) (most : Option Nat) (greedy : Bool)

namespace Item

/-- What an opening parenthesis begins. -/
def ofOpening : Opening → Item
  | .group kind => enter kind
  | .flags changes => flags changes

/-- A repetition, up to the mark of its greed. -/
def repeats (least : Nat) (most : Option Nat) (cs : Rest) : Option (Item × Rest) :=
  some (again least most (greed cs).1, (greed cs).2)

/-- The item that a character begins. -/
def read (v : Bool) (c : Char) (cs : Rest) : Option (Item × Rest) :=
  match c with
  | '(' => (opening v cs).map fun p => (ofOpening p.1, p.2)
  | ')' => some (leave, cs)
  | '|' => some (bar, cs)
  | '[' => (bracketed v cs).map fun p => (part (.cls p.1), p.2)
  | '?' => repeats 0 (some 1) cs
  | '*' => repeats 0 none cs
  | '+' => repeats 1 none cs
  | '\x7b' => (counts v cs).bind fun p => repeats p.1.1 p.1.2 p.2
  | '\\' => (escape v cs).map fun p => (part p.1, p.2)
  | '.' => some (part .dot, cs)
  | '^' => some (part (.position .lineStart), cs)
  | '$' => some (part (.position .lineEnd), cs)
  | c => some (part (.literal ⟨c, false⟩), cs)

theorem repeats_alike (least : Nat) (most : Option Nat) (u : Rest) :
    Alike v (repeats least most) (repeats least most) u :=
  (greed_alike u).map (again least most)

theorem read_alike (v : Bool) (c : Char) (u : Rest) : Alike v (read v c) (read v c) u := by
  unfold read
  split
  · exact (opening_alike v u).map ofOpening
  · exact .pure leave
  · exact .pure bar
  · exact (bracketed_alike v u).map fun cls => part (.cls cls)
  · exact repeats_alike 0 (some 1) u
  · exact repeats_alike 0 none u
  · exact repeats_alike 1 none u
  · exact (counts_alike v u).bind fun bounds mid _ => repeats_alike bounds.1 bounds.2 mid
  · exact (escape_alike v u).map part
  all_goals exact .pure _

end Item

/-- The state after an item. -/
def State.take (s : State) : Item → Option State
  | .part tree => some (s.add tree)
  | .flags changes =>
    some ({ s with verbose := (verboseIn changes).getD s.verbose }.add (.flags changes))
  | .enter kind => s.enter kind
  | .leave => s.leave
  | .bar => some { s with level := s.level.bar }
  | .again least most greedy => s.repeated least most greedy

/-- The flags that a group sets for what is inside of it. -/
def flagsOf : GroupKind → List FlagChange
  | .plain changes => changes
  | .numbered | .named _ => []

theorem exists_of_enter {s s' : State} {kind : GroupKind} (h : s.take (.enter kind) = some s') :
    ∃ names, s' = ⟨(verboseIn (flagsOf kind)).getD s.verbose, ⟨[], []⟩,
      ⟨s.level, kind, s.verbose⟩ :: s.outer, names⟩ := by
  cases kind with
  | numbered | plain => exact ⟨_, (Option.some.inj h).symm⟩
  | named name =>
      have h : (if s.names.contains name then none else some _) = some s' := h
      obtain ⟨-, h⟩ := Option.ite_none_left_eq_some.mp h
      exact ⟨_, (Option.some.inj h).symm⟩

/-- A turn of the loop: an item is read, and the state takes it. -/
theorem loop_cons {fuel : Nat} {s : State} {c : Char} {cs : Rest}
    (h : skip s.verbose u = c :: cs) :
    loop (fuel + 1) s u = (Item.read s.verbose c cs).bind fun p =>
      (s.take p.1).bind fun s => loop fuel s p.2 := by
  rw [loop, h]
  unfold Item.read
  dsimp only
  split
  · cases opening s.verbose cs with
    | none => rfl
    | some p =>
        obtain ⟨o, rest⟩ := p
        cases o <;> rfl
  · rfl
  · rfl
  · cases bracketed s.verbose cs <;> rfl
  · rfl
  · rfl
  · rfl
  · cases counts s.verbose cs <;> rfl
  · cases escape s.verbose cs <;> rfl
  · rfl
  · rfl
  · rfl
  · simp_all
    rfl

theorem loop_nil {fuel : Nat} {s : State} (h : skip s.verbose u = []) :
    loop (fuel + 1) s u = if s.outer.isEmpty then some s.level.close else none := by
  rw [loop, h]

theorem exists_turn {fuel : Nat} {s : State} {tree : Tree} {c : Char} {cs : Rest}
    (h : loop fuel s u = some tree) (hskip : skip s.verbose u = c :: cs) :
    ∃ fuel' item u' s', fuel = fuel' + 1 ∧ Item.read s.verbose c cs = some (item, u') ∧
      s.take item = some s' ∧ loop fuel' s' u' = some tree := by
  cases fuel with
  | zero => simp [loop] at h
  | succ fuel =>
      rw [loop_cons hskip] at h
      obtain ⟨⟨item, u'⟩, hitem, h⟩ := Option.bind_eq_some_iff.mp h
      obtain ⟨s', htake, h⟩ := Option.bind_eq_some_iff.mp h
      exact ⟨fuel, item, u', s', rfl, hitem, htake, h⟩

end Trialbook.Pattern.Reader

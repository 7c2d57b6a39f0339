import Trialbook.Proofs.Alike

/-!
# Brackets in place

A class in brackets is read alike wherever it stands. Two of its parts look
ahead: the name of an ASCII class is looked for up to a colon, which may stand
behind the end of the text, and the end of a range is looked for over white
space. Neither gets past the parenthesis that the text ends with.
-/

namespace Trialbook.Pattern.Reader

open Text (isWhite)

variable {v : Bool} {u u' w : Rest}

theorem leadingHyphens_alike {fuel fuel' : Nat} (hfuel : fuel ≤ fuel') (level : SetLevel)
    (u : Rest) : Alike v (leadingHyphens v fuel level) (leadingHyphens v fuel' level) u := by
  induction fuel generalizing fuel' level u with
  | zero => exact .of_eq_none rfl
  | succ fuel ih =>
      obtain ⟨fuel', rfl⟩ : ∃ k, fuel' = k + 1 := ⟨fuel' - 1, by omega⟩
      cases u with
      | nil => exact .of_eq_none rfl
      | cons c rest =>
          by_cases hc : c = '-'
          · subst hc
            have hle : fuel ≤ fuel' := by omega
            exact (ih hle _ (skip v rest)).skip.cons rfl fun w => rfl
          · refine (Alike.pure level).congr ?_ fun w => ?_
            · simp [leadingHyphens, hc]
            · simp [leadingHyphens, hc]

/-- The rest of the start of a class: a closing bracket may stand for itself. -/
def openBracket (v : Bool) (level : SetLevel) (cs : Rest) : Option (SetLevel × Rest) :=
  match cs with
  | ']' :: rest =>
    if level.items.isEmpty then
      match skip v rest with
      | [] => none
      | rest => some (level.add (.one ⟨']', false⟩), rest)
    else some (level, cs)
  | cs => some (level, cs)

theorem openBracket_alike (v : Bool) (level : SetLevel) (u : Rest) :
    Alike v (openBracket v level) (openBracket v level) u := by
  cases u with
  | nil =>
      refine .nil fun x u' h => ?_
      obtain ⟨rfl, rfl⟩ := Prod.mk.inj (Option.some.inj h)
      refine ⟨rfl, fun w hshuts => ?_⟩
      obtain ⟨rest, rfl⟩ := hshuts.exists_cons
      rfl
  | cons c rest =>
      by_cases hc : c = ']'
      · subst hc
        cases hempty : level.items.isEmpty with
        | false =>
            refine (Alike.pure level).congr ?_ fun w => ?_
            · simp [openBracket, hempty]
            · simp [openBracket, hempty]
        | true =>
            cases hskip : skip v rest with
            | nil => exact .of_eq_none (by simp [openBracket, hempty, hskip])
            | cons d inner =>
                have happend := skip_append_of_cons hskip
                refine ((Alike.pure (level.add (.one ⟨']', false⟩))).skip (v := v)).cons ?_
                  fun w => ?_
                · simp [openBracket, hempty, hskip]
                · simp [openBracket, hempty, happend]
      · refine (Alike.pure level).congr ?_ fun w => ?_
        · simp [openBracket, hc]
        · simp [openBracket, hc]

/-- The start of a class behind the mark of a negation. -/
def openItems (v negated : Bool) (cs : Rest) : Option (SetLevel × Rest) :=
  (leadingHyphens v (cs.length + 1) ⟨negated, none, []⟩ cs).bind fun p => openBracket v p.1 p.2

theorem openItems_alike (v negated : Bool) (u : Rest) :
    Alike v (openItems v negated) (openItems v negated) u :=
  (Alike.of_fuel 1 fun _ _ hfuel => leadingHyphens_alike hfuel ⟨negated, none, []⟩ u).bind
    fun level mid _ => openBracket_alike v level mid

theorem openSet_caret {rest : Rest} (h : skip v u = '^' :: rest) :
    openSet v u = openItems v true (skip v rest) := by
  unfold openSet
  rw [h]
  rfl

theorem openSet_plain {c : Char} {rest : Rest} (h : skip v u = c :: rest) (hc : c ≠ '^') :
    openSet v u = openItems v false (c :: rest) := by
  unfold openSet
  rw [h]
  split
  next negated cs hmark =>
    obtain ⟨rfl, rfl⟩ : negated = false ∧ cs = c :: rest := by simpa [hc, eq_comm] using hmark
    rfl

theorem openSet_alike (v : Bool) (u : Rest) : Alike v (openSet v) (openSet v) u := by
  refine .of_skipped (v := v) (fun cs => by simp only [openSet, skip_skip])
    (fun cs => by simp only [openSet, skip_skip]) fun cs hcs => ?_
  cases cs with
  | nil => exact .of_eq_none (by simp only [openSet, hcs]; rfl)
  | cons c rest =>
      by_cases hc : c = '^'
      · subst hc
        exact (openItems_alike v true (skip v rest)).skip.cons (openSet_caret hcs)
          fun w => openSet_caret (skip_cons_append hcs w)
      · exact (openItems_alike v false (c :: rest)).congr (openSet_plain hcs hc)
          fun w => openSet_plain (skip_cons_append hcs w) hc

theorem after?_suffix {word : String} (h : after? word u = some u') : u' <:+ u := by
  rw [after?] at h
  split at h
  · rw [← Option.some.inj h]
    exact List.drop_suffix _ _
  · simp at h

/-- No word without a closing parenthesis goes on behind the end of the text. -/
theorem after?_append {word : String} (hword : ')' ∉ word.toList) (hjoins : Joins v u u w) :
    after? word (u ++ w) = (after? word u).map (· ++ w) := by
  have hlength : word.length = word.toList.length := String.length_toList.symm
  have hiff : word.toList.isPrefixOf (u ++ w) = word.toList.isPrefixOf u := by
    rw [Bool.eq_iff_iff, List.isPrefixOf_iff_prefix, List.isPrefixOf_iff_prefix]
    refine ⟨fun hprefix => ?_, fun hprefix => hprefix.trans (List.prefix_append u w)⟩
    rcases List.prefix_or_prefix_of_prefix hprefix (List.prefix_append u w) with h | ⟨more, hmore⟩
    · exact h
    · rcases hjoins with ⟨hends, hne⟩ | hshuts
      · exact absurd (hmore ▸ List.mem_append_left _ (hends.mem hne)) hword
      · obtain ⟨rest, rfl⟩ := hshuts.exists_cons
        rw [← hmore, List.prefix_append_right_inj] at hprefix
        cases more with
        | nil => exact ⟨[], by simpa using hmore.symm⟩
        | cons c more =>
            obtain ⟨rfl, -⟩ := List.cons_prefix_cons.mp hprefix
            exact absurd (hmore ▸ List.mem_append_right _ List.mem_cons_self) hword
  rw [after?, after?, hiff]
  split
  · next hprefix =>
      have hle := (List.isPrefixOf_iff_prefix.mp hprefix).length_le
      rw [Option.map_some, List.drop_append_of_le_length (by omega)]
  · rfl

/-- The names of ASCII classes are made of letters. -/
theorem charSet_asciiClass?_eq_none {name : List Char} (h : ')' ∈ name) :
    CharSet.asciiClass? (String.ofList name) = none := by
  unfold CharSet.asciiClass?
  split
  all_goals first
    | rfl
    | next heq =>
        rw [← String.toList_inj, String.toList_ofList] at heq
        rw [heq] at h
        simp at h

/-- A named ASCII class from its name on. -/
def asciiName (negated : Bool) (cs : Rest) : Option (ClassTree × Rest) :=
  (after? ":]" (cs.dropWhile (· != ':'))).bind fun rest =>
    (CharSet.asciiClass? (String.ofList (cs.takeWhile (· != ':')))).bind fun _ =>
      some (.ascii (String.ofList (cs.takeWhile (· != ':'))) negated, rest)

theorem asciiName_suffix {negated : Bool} {cls : ClassTree}
    (h : asciiName negated u = some (cls, u')) : u' <:+ u := by
  obtain ⟨rest, hrest, h⟩ := Option.bind_eq_some_iff.mp h
  obtain ⟨-, -, h⟩ := Option.bind_eq_some_iff.mp h
  rw [← (Prod.mk.inj (Option.some.inj h)).2]
  exact (after?_suffix hrest).trans (List.dropWhile_suffix _)

/-- The closing parenthesis that ends a text or follows it. -/
theorem mem_of_joins {p : Char → Bool} (hp : p ')' = true) (hjoins : Joins v u u w)
    (hall : ∀ c ∈ u, p c = true) : ')' ∈ (u ++ w).takeWhile p := by
  rw [List.takeWhile_append_of_pos hall]
  rcases hjoins with ⟨hends, hne⟩ | hshuts
  · exact List.mem_append_left _ (hends.mem hne)
  · obtain ⟨rest, rfl⟩ := hshuts.exists_cons
    rw [List.takeWhile_cons_of_pos hp]
    exact List.mem_append_right _ List.mem_cons_self

theorem asciiName_append (negated : Bool) (hjoins : Joins v u u w) :
    asciiName negated (u ++ w) = (asciiName negated u).map fun p => (p.1, p.2 ++ w) := by
  by_cases hcolon : u.dropWhile (· != ':') = []
  · -- without a colon the name goes on over the parenthesis
    have hname := mem_of_joins (p := (· != ':')) (by decide) hjoins
      (List.dropWhile_eq_nil_iff.mp hcolon)
    have hnone : asciiName negated u = none := by
      rw [asciiName, hcolon]
      rfl
    rw [hnone, asciiName, charSet_asciiClass?_eq_none hname]
    simp
  · have htake := takeWhile_append _ hcolon w
    have hdrop := dropWhile_append _ hcolon w
    have hmark : ')' ∉ (":]" : String).toList := by decide
    have hsuffix : u.dropWhile (· != ':') <:+ u := List.dropWhile_suffix _
    have hbehind := after?_append hmark
      ((hjoins.of_suffix hsuffix).imp_left fun hends => ⟨hends.1, hcolon⟩)
    rw [asciiName, asciiName, htake, hdrop, hbehind]
    cases after? ":]" (u.dropWhile (· != ':')) with
    | none => rfl
    | some rest => cases CharSet.asciiClass? (String.ofList (u.takeWhile (· != ':'))) <;> rfl

theorem asciiClass?_colon {cs : Rest} (hc : cs.head? ≠ some '^') :
    asciiClass? (':' :: cs) = asciiName false cs := by
  have hcolon : after? ":" (':' :: cs) = some cs := rfl
  unfold asciiClass?
  rw [hcolon]
  cases cs with
  | nil => rfl
  | cons c cs => simp_all [asciiName]

theorem asciiClass?_of_ne {cs : Rest} (hc : cs.head? ≠ some ':') : asciiClass? cs = none := by
  have hcolon : after? ":" cs = none := by
    cases cs with
    | nil => rfl
    | cons c cs =>
        have hne : ':' ≠ c := fun heq => hc (congrArg some heq.symm)
        simp [after?, hne]
  unfold asciiClass?
  rw [hcolon]
  rfl

/-- The first characters of a text that is not empty, or that a parenthesis follows. -/
theorem head?_append_of_joins {c : Char} (hc : c ≠ ')') (hjoins : Joins v u u w) :
    (u ++ w).head? = some c ↔ u.head? = some c := by
  cases u with
  | cons d u => rfl
  | nil =>
      rcases hjoins with ⟨-, hne⟩ | hshuts
      · exact absurd rfl hne
      · obtain ⟨rest, rfl⟩ := hshuts.exists_cons
        simpa using hc.symm

theorem asciiClass?_append (hjoins : Joins v u u w) :
    asciiClass? (u ++ w) = (asciiClass? u).map fun p => (p.1, p.2 ++ w) := by
  by_cases hc : u.head? = some ':'
  · obtain ⟨rest, rfl⟩ := List.head?_eq_some_iff.mp hc
    have hjoins := hjoins.tail (by decide)
    by_cases hd : rest.head? = some '^'
    · obtain ⟨rest, rfl⟩ := List.head?_eq_some_iff.mp hd
      exact asciiName_append true (hjoins.tail (by decide))
    · have hd' : (rest ++ w).head? ≠ some '^' := mt (head?_append_of_joins (by decide) hjoins).mp hd
      rw [List.cons_append, asciiClass?_colon hd, asciiClass?_colon hd']
      exact asciiName_append false hjoins
  · have hc' : (u ++ w).head? ≠ some ':' := mt (head?_append_of_joins (by decide) hjoins).mp hc
    rw [asciiClass?_of_ne hc, asciiClass?_of_ne hc']
    rfl

theorem asciiClass?_suffix {cls : ClassTree} (h : asciiClass? u = some (cls, u')) : u' <:+ u := by
  by_cases hc : u.head? = some ':'
  · obtain ⟨rest, rfl⟩ := List.head?_eq_some_iff.mp hc
    by_cases hd : rest.head? = some '^'
    · obtain ⟨rest, rfl⟩ := List.head?_eq_some_iff.mp hd
      exact ((asciiName_suffix h).trans (List.suffix_cons _ _)).trans (List.suffix_cons _ _)
    · rw [asciiClass?_colon hd] at h
      exact (asciiName_suffix h).trans (List.suffix_cons _ _)
  · simp [asciiClass?_of_ne hc] at h

theorem asciiClass?_alike (u : Rest) : Alike v asciiClass? asciiClass? u :=
  .of_append (fun _ _ => asciiClass?_suffix) fun _ => asciiClass?_append

theorem setAtom_alike (v : Bool) (u : Rest) : Alike v (setAtom v) (setAtom v) u := by
  cases u with
  | nil => exact .of_eq_none rfl
  | cons c rest =>
      by_cases hc : c = '\\'
      · subst hc
        exact (escape_alike v rest).cons rfl fun w => rfl
      · refine (Alike.pure (Tree.literal ⟨c, false⟩)).cons ?_ fun w => ?_
        · simp [setAtom]
        · simp [setAtom]

theorem dropWhile_white_ne_nil (hends : Ends u) (hne : u ≠ []) : u.dropWhile isWhite ≠ [] := by
  intro hall
  have hwhite := List.dropWhile_eq_nil_iff.mp hall _ (hends.mem hne)
  exact absurd hwhite (by decide)

theorem peek_append (hjoins : Joins v u u w) (hne : u ≠ []) : peek v (u ++ w) = peek v u := by
  cases v with
  | false =>
      obtain ⟨c, rest, rfl⟩ := List.exists_cons_of_ne_nil hne
      rfl
  | true =>
      obtain ⟨hends, -⟩ := hjoins.resolve_right fun hshuts => absurd hshuts.1 (by decide)
      have hdrop := dropWhile_white_ne_nil hends hne
      have happend := dropWhile_append isWhite hdrop w
      replace hends := hends.of_suffix (List.dropWhile_suffix isWhite)
      obtain ⟨c, rest, hc⟩ := List.exists_cons_of_ne_nil hdrop
      rw [hc] at happend hends
      by_cases hhash : c = '#'
      · subst hhash
        have hrest := hends.tail_ne_nil (by decide)
        have hdrop' := dropWhile_white_ne_nil (hends.of_suffix (List.suffix_cons _ _)) hrest
        have happend' := dropWhile_append isWhite hdrop' w
        obtain ⟨d, others, hd⟩ := List.exists_cons_of_ne_nil hdrop'
        rw [hd] at happend'
        simp [peek, hc, happend, happend', hd]
      · simp [peek, hc, happend, hhash]

/-- What a single part of a class stands for, if a class may hold it. -/
def single? : Tree → Option ClassTree
  | .literal l => some (.one l)
  | .cls c => some c
  | _ => none

/-- The range between two parts of a class, if they can bound one. -/
def range? : Tree → Tree → Option ClassTree
  | .literal low, .literal high =>
    if low.char ≤ high.char then some (.range low high) else none
  | _, _ => none

/-- The rest of an item of a class behind its first part. -/
def itemTail (v : Bool) (first : Tree) (cs : Rest) : Option (ClassTree × Rest) :=
  match skip v cs with
  | [] => none
  | '-' :: behind =>
    if peek v behind == some ']' || peek v behind == some '-' then
      (single? first).bind fun item => some (item, '-' :: behind)
    else
      (setAtom v (skip v behind)).bind fun p =>
        (range? first p.1).bind fun item => some (item, p.2)
  | cs => (single? first).bind fun item => some (item, cs)

theorem setItem_eq (v : Bool) (u : Rest) :
    setItem v u = (setAtom v u).bind fun p => itemTail v p.1 p.2 := by
  unfold setItem
  refine Option.bind_congr fun p _ => ?_
  obtain ⟨first, cs⟩ := p
  unfold itemTail
  dsimp only
  cases skip v cs with
  | nil => rfl
  | cons c behind =>
      by_cases hc : c = '-'
      · subst hc
        show (if _ then _ else _) = if _ then _ else _
        split
        · cases first <;> rfl
        · refine Option.bind_congr fun p _ => ?_
          obtain ⟨second, rest⟩ := p
          dsimp only
          split
          · rw [range?]
            split <;> rfl
          · simp [range?]
      · cases first <;> simp [hc, single?]

theorem itemTail_alike (v : Bool) (first : Tree) (u : Rest) :
    Alike v (itemTail v first) (itemTail v first) u := by
  refine .of_skipped (v := v) (fun cs => by simp only [itemTail, skip_skip])
    (fun cs => by simp only [itemTail, skip_skip]) fun cs hcs => ?_
  cases cs with
  | nil => exact .of_eq_none (by simp only [itemTail, hcs])
  | cons c rest =>
      by_cases hc : c = '-'
      · subst hc
        by_cases hrest : rest = []
        · subst hrest
          exact .of_eq_none (by cases v <;> simp [itemTail, hcs, peek, skip_nil, setAtom])
        · -- the hyphen makes no range in front of a bracket or of another hyphen
          have hpeek : ∀ w, Joins v ('-' :: rest) ('-' :: rest) w →
              peek v (rest ++ w) = peek v rest :=
            fun w hjoins => peek_append (hjoins.tail (by decide)) hrest
          by_cases hnext : (peek v rest == some ']' || peek v rest == some '-') = true
          · refine (Alike.ofOption (single? first) id).congr_of_joins ?_ fun w hjoins => ?_
            · simp only [itemTail, hcs, hnext, if_true]
              rfl
            · simp only [List.cons_append, itemTail, skip_cons_append hcs, hpeek w hjoins, hnext,
                if_true]
              rfl
          · refine ((setAtom_alike v (skip v rest)).skip.bind fun second _ _ =>
              .ofOption (range? first second) id).cons_of_joins ?_ fun w hjoins => ?_
            · simp only [itemTail, hcs, hnext]
              rfl
            · simp only [itemTail, skip_cons_append hcs, hpeek w hjoins, hnext]
              rfl
      · refine (Alike.ofOption (single? first) id).congr ?_ fun w => ?_
        · simp [itemTail, hcs, hc]
        · simp [itemTail, skip_cons_append hcs, hc]

theorem setItem_alike (v : Bool) (u : Rest) : Alike v (setItem v) (setItem v) u :=
  ((setAtom_alike v u).bind fun first mid _ => itemTail_alike v first mid).congr (setItem_eq v u)
    fun w => setItem_eq v (u ++ w)

/-- The set operator that a text begins with, if it begins with one. -/
def operator? : Rest → Option (SetOp × Rest)
  | '&' :: '&' :: rest => some (.intersection, rest)
  | '-' :: '-' :: rest => some (.difference, rest)
  | '~' :: '~' :: rest => some (.symmetricDifference, rest)
  | _ => none

theorem operator?_suffix {op : SetOp} (h : operator? u = some (op, u')) : u' <:+ u := by
  unfold operator? at h
  split at h
  · rw [← (Prod.mk.inj (Option.some.inj h)).2]
    exact (List.suffix_cons _ _).trans (List.suffix_cons _ _)
  · rw [← (Prod.mk.inj (Option.some.inj h)).2]
    exact (List.suffix_cons _ _).trans (List.suffix_cons _ _)
  · rw [← (Prod.mk.inj (Option.some.inj h)).2]
    exact (List.suffix_cons _ _).trans (List.suffix_cons _ _)
  · simp at h

theorem operator?_append (hjoins : Joins v u u w) :
    operator? (u ++ w) = (operator? u).map fun p => (p.1, p.2 ++ w) := by
  match u with
  | c :: d :: rest =>
      simp only [List.cons_append]
      unfold operator?
      split <;> simp_all
  | [] =>
      rcases hjoins with ⟨-, hne⟩ | hshuts
      · exact absurd rfl hne
      · obtain ⟨rest, rfl⟩ := hshuts.exists_cons
        rfl
  | [c] =>
      rcases hjoins with ⟨hends, -⟩ | hshuts
      · obtain rfl : c = ')' := hends c rfl
        rfl
      · -- an operator is a character twice
        obtain ⟨rest, rfl⟩ := hshuts.exists_cons
        unfold operator?
        split <;> simp_all

theorem operator?_alike (u : Rest) : Alike v operator? operator? u :=
  .of_append (fun _ _ => operator?_suffix) fun _ => operator?_append

theorem setLoop_open {fuel : Nat} {outer : List SetLevel} {level : SetLevel} {rest : Rest}
    (h : skip v u = '[' :: rest) :
    setLoop v (fuel + 1) outer level u =
      match asciiClass? rest with
      | some (cls, rest) => setLoop v fuel outer (level.add cls) rest
      | none => (openSet v rest).bind fun p => setLoop v fuel (level :: outer) p.1 p.2 := by
  rw [setLoop, h]
  rfl

theorem setLoop_close {fuel : Nat} {outer : List SetLevel} {level : SetLevel} {rest : Rest}
    (h : skip v u = ']' :: rest) :
    setLoop v (fuel + 1) outer level u =
      match outer with
      | [] => some (level.close, rest)
      | parent :: outer => setLoop v fuel outer (parent.add level.close) rest := by
  rw [setLoop, h]
  rfl

theorem setLoop_other {fuel : Nat} {outer : List SetLevel} {level : SetLevel} {c : Char}
    {rest : Rest} (h : skip v u = c :: rest) (hopen : c ≠ '[') (hclose : c ≠ ']') :
    setLoop v (fuel + 1) outer level u =
      match operator? (c :: rest) with
      | some (op, rest) => setLoop v fuel outer (level.operate op) rest
      | none => (setItem v (c :: rest)).bind fun p => setLoop v fuel outer (level.add p.1) p.2 := by
  rw [setLoop, h]
  unfold operator?
  split <;> simp_all

theorem setLoop_alike {fuel fuel' : Nat} (hfuel : fuel ≤ fuel') (outer : List SetLevel)
    (level : SetLevel) (u : Rest) :
    Alike v (setLoop v fuel outer level) (setLoop v fuel' outer level) u := by
  induction fuel generalizing fuel' outer level u with
  | zero => exact .of_eq_none rfl
  | succ fuel ih =>
      obtain ⟨fuel', rfl⟩ : ∃ k, fuel' = k + 1 := ⟨fuel' - 1, by omega⟩
      have hle : fuel ≤ fuel' := by omega
      refine .of_skipped (v := v) (fun cs => by simp only [setLoop, skip_skip])
        (fun cs => by simp only [setLoop, skip_skip]) fun cs hcs => ?_
      cases cs with
      | nil => exact .of_eq_none (by simp only [setLoop, hcs])
      | cons c rest =>
          by_cases hopen : c = '['
          · subst hopen
            -- a class is only looked for where something stands behind the bracket
            by_cases hrest : rest = []
            · subst hrest
              exact .of_eq_none (by rw [setLoop_open hcs]; simp [asciiClass?, after?, openSet,
                skip_nil, leadingHyphens])
            · have hascii : ∀ w, Joins v ('[' :: rest) ('[' :: rest) w → asciiClass? (rest ++ w) =
                  (asciiClass? rest).map fun p => (p.1, p.2 ++ w) := fun w hjoins =>
                asciiClass?_append (hjoins.tail (by decide))
              cases hcls : asciiClass? rest with
              | some found =>
                  refine ((asciiClass?_alike rest).bind fun cls mid _ =>
                    ih hle outer (level.add cls) mid).cons_of_joins ?_ fun w hjoins => ?_
                  · rw [setLoop_open hcs, hcls]
                    rfl
                  · rw [setLoop_open (skip_cons_append hcs w), hascii w hjoins, hcls]
                    rfl
              | none =>
                  refine ((openSet_alike v rest).bind fun inner mid _ =>
                    ih hle (level :: outer) inner mid).cons_of_joins ?_ fun w hjoins => ?_
                  · rw [setLoop_open hcs, hcls]
                  · rw [setLoop_open (skip_cons_append hcs w), hascii w hjoins, hcls]
                    rfl
          · by_cases hclose : c = ']'
            · subst hclose
              cases outer with
              | nil =>
                  refine (Alike.pure level.close).cons ?_ fun w => ?_
                  · rw [setLoop_close hcs]
                  · rw [setLoop_close (skip_cons_append hcs w)]
              | cons parent outer =>
                  refine (ih hle outer (parent.add level.close) rest).cons ?_ fun w => ?_
                  · rw [setLoop_close hcs]
                  · rw [setLoop_close (skip_cons_append hcs w)]
            · have happend := fun w (hjoins : Joins v (c :: rest) (c :: rest) w) =>
                operator?_append hjoins
              cases hop : operator? (c :: rest) with
              | some found =>
                  refine ((operator?_alike (c :: rest)).bind fun op mid _ =>
                    ih hle outer (level.operate op) mid).congr_of_joins ?_ fun w hjoins => ?_
                  · rw [setLoop_other hcs hopen hclose, hop]
                    rfl
                  · rw [happend w hjoins, hop, List.cons_append,
                      setLoop_other (skip_cons_append hcs w) hopen hclose, ← List.cons_append,
                      happend w hjoins, hop]
                    rfl
              | none =>
                  refine ((setItem_alike v (c :: rest)).bind fun item mid _ =>
                    ih hle outer (level.add item) mid).congr_of_joins ?_ fun w hjoins => ?_
                  · rw [setLoop_other hcs hopen hclose, hop]
                  · rw [List.cons_append, setLoop_other (skip_cons_append hcs w) hopen hclose,
                      ← List.cons_append, happend w hjoins, hop]
                    rfl

theorem bracketed_alike (v : Bool) (u : Rest) : Alike v (bracketed v) (bracketed v) u :=
  (openSet_alike v u).bind fun level mid _ =>
    Alike.of_fuel 1 fun _ _ hfuel => setLoop_alike hfuel [] level mid

end Trialbook.Pattern.Reader

import Trialbook.Proofs.References
import Mathlib.Data.List.Chain

/-!
# Tokens that refer to themselves

Spelling out tokens stops for one of three reasons. All of them have their texts, one of
the texts is no regex, or a token is met again while it is being spelled out, and then
the tokens around it are named, which refer to one another down to the one that came
twice (`Circles`).

The depth to which references are followed is counted only to have an end in sight. The
tokens around the one that is looked at are distinct (`Reached`), so where there is depth
for all of them the count never runs out, and a run with more to spend is the same run
(`resolveFrom_congr`). That is also why a cycle is only reported where there is one.

The texts do not depend on the order in which the tokens are taken, since they are the
one assignment that fits together, and a dictionary is determined by what can be looked
up in it (`Settled.eq_of_get?_eq`).
-/

namespace Trialbook.Rule

open Text (Dictionary)

variable {tokens done done' : Dictionary} {fuel fuel' : Nat} {around order : List String}
  {name : String}

/-! ## Depth -/

/-- A token is met behind other ones, all of them distinct, with depth left for those
that are not among them. -/
structure Reached (tokens : Dictionary) (fuel : Nat) (around : List String) (name : String) :
    Prop where
  declared : tokens.contains name = true
  outer : ∀ other ∈ around, tokens.contains other = true
  distinct : around.Nodup
  room : tokens.keys.length ≤ fuel + around.length

namespace Reached

theorem start (hname : tokens.contains name = true) (h : tokens.keys.length ≤ fuel) :
    Reached tokens fuel [] name := ⟨hname, by simp, .nil, h⟩

/-- The depth is spent where all tokens are around. -/
theorem mem_of_zero (h : Reached tokens 0 around name) : name ∈ around := by
  by_contra hopen
  have hsubset : name :: around ⊆ tokens.keys :=
    List.cons_subset.mpr ⟨Dictionary.mem_keys.mpr h.declared, fun other hother =>
      Dictionary.mem_keys.mpr (h.outer other hother)⟩
  have hlength :=
    (List.subperm_of_subset (List.nodup_cons.mpr ⟨hopen, h.distinct⟩) hsubset).length_le
  have hroom := h.room
  rw [List.length_cons] at hlength
  omega

theorem inner (h : Reached tokens (fuel + 1) around name) (hopen : name ∉ around) {other : String}
    (hother : tokens.contains other = true) : Reached tokens fuel (around ++ [name]) other where
  declared := hother
  outer := List.forall_mem_append.mpr ⟨h.outer, by simpa using h.declared⟩
  distinct := (List.perm_append_singleton name around).nodup_iff.mpr
    (List.nodup_cons.mpr ⟨hopen, h.distinct⟩)
  room := by
    have hroom := h.room
    rw [List.length_append, List.length_singleton]
    omega

end Reached

theorem foldlM_add_congr
    {resolve resolve' : String → Dictionary → Except TableFault (String × Dictionary)}
    (h : ∀ name, tokens.contains name = true → ∀ done, resolve name done = resolve' name done)
    (pieces : List Piece) (e : Expansion) :
    pieces.foldlM (Expansion.add tokens resolve) e =
      pieces.foldlM (Expansion.add tokens resolve') e := by
  have hadd : Expansion.add tokens resolve = Expansion.add tokens resolve' := by
    funext e piece
    cases hrefers : refersTo? tokens e.before piece with
    | none => rw [Expansion.add_of_none hrefers, Expansion.add_of_none hrefers]
    | some name =>
        rw [Expansion.add_of_some hrefers, Expansion.add_of_some hrefers,
          h name (contains_of_refersTo? hrefers)]
  rw [hadd]

/-! ## Cycles -/

/-- Names of tokens of which each refers to the next one, and the last one came
before. -/
structure Circles (tokens : Dictionary) (names : List String) : Prop where
  chain : names.IsChain (References tokens)
  again : ∃ front last, names = front ++ [last] ∧ last ∈ front

theorem Circles.exists_cycle {names : List String} (h : Circles tokens names) :
    ∃ name, Relation.TransGen (References tokens) name name := by
  obtain ⟨front, last, rfl, hmem⟩ := h.again
  have hpairs : (front ++ [last]).Pairwise (Relation.TransGen (References tokens)) :=
    (h.chain.imp fun _ _ => .single).pairwise
  exact ⟨last, (List.pairwise_append.mp hpairs).2.2 last hmem last List.mem_cons_self⟩

/-- Pieces cannot be spelled out because of one of the tokens that they refer to. -/
theorem exists_of_foldlM_add_error
    {resolve : String → Dictionary → Except TableFault (String × Dictionary)} {pieces : List Piece}
    {e : Expansion} {fault : TableFault}
    (h : pieces.foldlM (Expansion.add tokens resolve) e = .error fault) :
    ∃ name ∈ referencesFrom tokens e.before pieces, ∃ done, resolve name done = .error fault := by
  induction pieces generalizing e with
  | nil => simp [pure, Except.pure] at h
  | cons piece rest ih =>
      rw [List.foldlM_cons] at h
      rw [referencesFrom_cons]
      cases hrefers : refersTo? tokens e.before piece with
      | none =>
          rw [Expansion.add_of_none hrefers] at h
          obtain ⟨name, hname, hfault⟩ := ih h
          exact ⟨name, List.mem_append_right _ hname, hfault⟩
      | some other =>
          rw [Expansion.add_of_some hrefers] at h
          cases hfound : resolve other e.done with
          | error fault' =>
              rw [hfound] at h
              obtain rfl := Except.error.inj h
              exact ⟨other, List.mem_append_left _ List.mem_cons_self, e.done, hfound⟩
          | ok found =>
              rw [hfound] at h
              obtain ⟨name, hname, hfault⟩ := ih h
              exact ⟨name, List.mem_append_right _ hname, hfault⟩

/-! ## One token after the other -/

section

variable [Pattern.Dialect]

theorem resolveToken_known {text : String} (h : done.get? name = some text) :
    resolveToken tokens fuel around name done = .ok (text, done) := by
  cases fuel <;> simp only [resolveToken, h]

theorem resolveToken_again (hnew : done.get? name = none) (h : name ∈ around) :
    resolveToken tokens fuel around name done = .error (.tokenCycle (around ++ [name])) := by
  cases fuel <;> simp [resolveToken, hnew, h]

theorem resolveToken_new (hnew : done.get? name = none) (h : name ∉ around) :
    resolveToken tokens (fuel + 1) around name done =
      ((Piece.scan ((tokens.get? name).getD "")).foldlM
        (Expansion.add tokens (resolveToken tokens fuel (around ++ [name]))) ⟨"", [], done⟩).bind
          fun e => if (Pattern.ofChars? e.text.toList).isNone then .error (.invalidToken name)
            else .ok (e.text, e.done.insert name e.text) := by
  simp only [resolveToken, hnew, List.contains_iff_mem, h, if_false]
  rfl

/-- More depth than there are tokens makes no difference. -/
theorem resolveToken_congr (h : Reached tokens fuel around name)
    (h' : Reached tokens fuel' around name) :
    resolveToken tokens fuel around name done = resolveToken tokens fuel' around name done := by
  induction fuel generalizing fuel' around name done with
  | zero =>
      have hmem := h.mem_of_zero
      cases hfound : done.get? name with
      | some text => rw [resolveToken_known hfound, resolveToken_known hfound]
      | none => rw [resolveToken_again hfound hmem, resolveToken_again hfound hmem]
  | succ fuel ih =>
      cases hfound : done.get? name with
      | some text => rw [resolveToken_known hfound, resolveToken_known hfound]
      | none =>
          by_cases hmem : name ∈ around
          · rw [resolveToken_again hfound hmem, resolveToken_again hfound hmem]
          · cases fuel' with
            | zero => exact absurd h'.mem_of_zero hmem
            | succ fuel' =>
                rw [resolveToken_new hfound hmem, resolveToken_new hfound hmem]
                exact congrArg (Except.bind · _) (foldlM_add_congr (fun other hother done =>
                  ih (h.inner hmem hother) (h'.inner hmem hother)) _ _)

theorem resolveFrom_congr (horder : ∀ name ∈ order, tokens.contains name = true)
    (h : tokens.keys.length ≤ fuel) (h' : tokens.keys.length ≤ fuel') (done : Dictionary) :
    resolveFrom tokens fuel order done = resolveFrom tokens fuel' order done := by
  induction order generalizing done with
  | nil => rfl
  | cons name order ih =>
      obtain ⟨hname, hothers⟩ := List.forall_mem_cons.mp horder
      rw [resolveFrom_cons, resolveFrom_cons,
        resolveToken_congr (.start hname h) (.start hname h')]
      exact congrArg _ (funext fun found => ih hothers found.2)

/-- A cycle that is reported goes through the tokens around, which lead to the one that
is looked at. -/
theorem circles_of_resolveToken (hreached : Reached tokens fuel around name)
    (hchain : (around ++ [name]).IsChain (Refers tokens)) {names : List String}
    (h : resolveToken tokens fuel around name done = .error (.tokenCycle names)) :
    Circles tokens names := by
  induction fuel generalizing around name done with
  | zero =>
      have hmem := hreached.mem_of_zero
      cases hfound : done.get? name with
      | some text => rw [resolveToken_known hfound] at h; simp at h
      | none =>
          rw [resolveToken_again hfound hmem] at h
          obtain rfl := TableFault.tokenCycle.inj (Except.error.inj h)
          exact ⟨refers_eq ▸ hchain, around, name, rfl, hmem⟩
  | succ fuel ih =>
      cases hfound : done.get? name with
      | some text => rw [resolveToken_known hfound] at h; simp at h
      | none =>
          by_cases hmem : name ∈ around
          · rw [resolveToken_again hfound hmem] at h
            obtain rfl := TableFault.tokenCycle.inj (Except.error.inj h)
            exact ⟨refers_eq ▸ hchain, around, name, rfl, hmem⟩
          · obtain ⟨fragment, hfragment⟩ := Option.isSome_iff_exists.mp hreached.declared
            rw [resolveToken_new hfound hmem, hfragment, Option.getD_some] at h
            cases hpieces : (Piece.scan fragment).foldlM
                (Expansion.add tokens (resolveToken tokens fuel (around ++ [name])))
                ⟨"", [], done⟩ with
            | ok e =>
                rw [hpieces] at h
                simp only [Except.bind] at h
                split at h <;> simp at h
            | error fault =>
                rw [hpieces] at h
                obtain rfl := Except.error.inj h
                obtain ⟨other, hother, done', hinner⟩ := exists_of_foldlM_add_error hpieces
                refine ih (hreached.inner hmem (contains_of_mem_referencesFrom hother)) ?_ hinner
                refine List.isChain_append.mpr ⟨hchain, .singleton other, ?_⟩
                simp only [List.getLast?_concat, List.head?_cons, Option.mem_some_iff, forall_eq']
                exact ⟨fragment, hfragment, hother⟩

theorem circles_of_resolveFrom (horder : ∀ name ∈ order, tokens.contains name = true)
    (hdepth : tokens.keys.length ≤ fuel) {names : List String}
    (h : resolveFrom tokens fuel order done = .error (.tokenCycle names)) :
    Circles tokens names := by
  induction order generalizing done with
  | nil => simp [resolveFrom, pure, Except.pure] at h
  | cons name order ih =>
      obtain ⟨hname, hothers⟩ := List.forall_mem_cons.mp horder
      rw [resolveFrom_cons] at h
      cases hfirst : resolveToken tokens fuel [] name done with
      | ok found =>
          rw [hfirst] at h
          exact ih hothers h
      | error fault =>
          rw [hfirst] at h
          obtain rfl := Except.error.inj h
          exact circles_of_resolveToken (.start hname hdepth) (.singleton name) hfirst

/-! ## Order -/

theorem Settled.sorted (h : Settled tokens done) :
    done.entries.Pairwise fun a b => a.1 < b.1 := by
  induction h with
  | empty => exact .nil
  | insert _ _ _ _ _ ih => exact Dictionary.sorted_insertEntry _ _ ih

/-- Two runs leave the same dictionary if the same can be looked up in it. -/
theorem Settled.eq_of_get?_eq (h : Settled tokens done) (h' : Settled tokens done')
    (hget : ∀ name, done.get? name = done'.get? name) : done = done' := by
  have hentries := Dictionary.eq_of_lookup_eq h.sorted h'.sorted hget
  cases done
  cases done'
  exact congrArg Dictionary.mk hentries

/-- Tokens that can be spelled out have their texts in the end, in whichever order and
down to whatever depth they are taken. -/
theorem exists_resolveFrom_expands {texts : String → String} (hacyclic : Acyclic tokens)
    (htexts : Expands tokens texts)
    (hregex : ∀ name, tokens.contains name = true → IsRegex (texts name)) :
    ∃ done, (∀ name, done.get? name =
        if tokens.contains name then some (texts name) else none) ∧
      ∀ order, order.Perm tokens.keys → ∀ depth, tokens.keys.length ≤ depth →
        resolveFrom tokens depth order {} = .ok done := by
  have hspells := expands_iff.mp htexts
  obtain ⟨done, hdone⟩ := exists_resolveTokens hacyclic hspells hregex
  have hget := get?_of_resolveTokens hdone hspells
  refine ⟨done, hget, fun order horder depth hdepth => ?_⟩
  have hdeclared : ∀ name ∈ order, tokens.contains name = true := fun name hname =>
    Dictionary.mem_keys.mp (horder.mem_iff.mp hname)
  obtain ⟨done', hdone'⟩ :=
    exists_resolveFrom hacyclic hspells hregex hdepth hdeclared (agrees_empty texts)
  obtain ⟨hgrows, hknown⟩ := of_resolveFrom hdeclared hdone'
  have hsettled' := hgrows.settled .empty
  have hget' : ∀ name, done'.get? name =
      if tokens.contains name then some (texts name) else none :=
    hsettled'.get?_eq hspells fun name hname =>
      hknown name (horder.mem_iff.mpr (Dictionary.mem_keys.mpr hname))
  rw [hdone', (of_resolveTokens hdone).1.eq_of_get?_eq hsettled' fun name =>
    (hget name).trans (hget' name).symm]

/-- Spelling out the tokens of a table ends, and how far down it may go makes no
difference. It fails if tokens refer to one another in a circle, and reports a cycle only
then, naming tokens of which each refers to the next one, down to one that came before.
If there is no such circle, there is one way to give every token the text of its fragment
with the texts of other tokens in place of all references. If these texts are regexes,
they are what the tokens stand for in the end, in whichever order they are taken. -/
theorem resolveTokens_expands (tokens : Dictionary) :
    (∀ depth, tokens.keys.length ≤ depth →
      resolveFrom tokens depth tokens.keys {} = resolveTokens tokens) ∧
    ((∃ name, Relation.TransGen (References tokens) name name) →
      ∃ fault, resolveTokens tokens = .error fault) ∧
    (∀ names, resolveTokens tokens = .error (.tokenCycle names) →
      (∃ name, Relation.TransGen (References tokens) name name) ∧
        names.IsChain (References tokens) ∧ ∃ front last, names = front ++ [last] ∧ last ∈ front) ∧
    ((∀ name, ¬ Relation.TransGen (References tokens) name name) →
      ∃ texts, Expands tokens texts ∧
        (∀ texts', Expands tokens texts' → ∀ name, tokens.contains name = true →
          texts' name = texts name) ∧
        ((∀ name, tokens.contains name = true → IsRegex (texts name)) →
          ∃ done, resolveTokens tokens = .ok done ∧
            (∀ name, done.get? name = if tokens.contains name then some (texts name) else none) ∧
            ∀ order, order.Perm tokens.keys → ∀ depth, tokens.keys.length ≤ depth →
              resolveFrom tokens depth order {} = .ok done)) := by
  have hdeclared : ∀ name ∈ tokens.keys, tokens.contains name = true :=
    fun name hname => Dictionary.mem_keys.mp hname
  rw [← refers_eq]
  refine ⟨fun depth hdepth => ?_, fun ⟨name, hcycle⟩ => ?_, fun names h => ?_, fun hacyclic => ?_⟩
  · exact resolveFrom_congr hdeclared hdepth (Nat.le_refl _) {}
  · cases h : resolveTokens tokens with
    | error fault => exact ⟨fault, rfl⟩
    | ok done => exact absurd hcycle ((exists_resolveTokens_iff.mp ⟨done, h⟩).1 name)
  · have hcircles : Circles tokens names :=
      circles_of_resolveFrom hdeclared (Nat.le_refl _) (resolveTokens_eq tokens ▸ h)
    exact ⟨refers_eq ▸ hcircles.exists_cycle, refers_eq ▸ hcircles.chain, hcircles.again⟩
  · obtain ⟨texts, htexts⟩ := exists_expands hacyclic
    refine ⟨texts, htexts, fun texts' htexts' name hname =>
      htexts'.unique hacyclic htexts hname, fun hregex => ?_⟩
    obtain ⟨done, hget, hrun⟩ := exists_resolveFrom_expands hacyclic htexts hregex
    exact ⟨done, hrun tokens.keys (.refl _) _ (Nat.le_refl _), hget, hrun⟩

end

/-- Tokens behind one another, one of which also stands as the name of a group, and two
tokens that refer to each other. -/
theorem resolveTokens_expands_nested :
    let tokens : Dictionary := ⟨[("A", "a<B>"), ("B", "b<C>|(?P<C>c)"), ("C", "c{2}")]⟩
    let done : Dictionary :=
      ⟨[("A", "a(?:b(?:c{2})|(?P<C>c))"), ("B", "b(?:c{2})|(?P<C>c)"), ("C", "c{2}")]⟩
    let circle : Dictionary := ⟨[("A", "x<B>"), ("B", "<A>")]⟩
    (∀ name, ¬ Relation.TransGen (References tokens) name name) ∧
      (∀ name, tokens.contains name = true → IsRegex (textIn done name)) ∧
      resolveTokens tokens = .ok done ∧ resolveFrom tokens 3 ["C", "A", "B"] {} = .ok done ∧
      Relation.TransGen (References circle) "A" "A" ∧
      resolveTokens circle = .error (.tokenCycle ["A", "B", "A"]) ∧
      ["A", "B", "A"].IsChain (References circle) := by
  intro tokens done circle
  have hdone : resolveTokens tokens = .ok done := eq_ok_of_toOption (by decide +kernel)
  have hacyclic : ∀ name, ¬ Relation.TransGen (References tokens) name name := by
    rw [← refers_eq]
    exact (exists_resolveTokens_iff.mp ⟨done, hdone⟩).1
  have hregex : ∀ name, tokens.contains name = true → IsRegex (textIn done name) :=
    fun name hname => by
      obtain ⟨text, htext⟩ := Option.isSome_iff_exists.mp ((of_resolveTokens hdone).2 name hname)
      obtain ⟨_, _, _, _, hregex⟩ := (of_resolveTokens hdone).1.of_get? htext
      exact textIn_eq htext ▸ hregex
  obtain ⟨texts, htexts, hunique, hrun⟩ := (resolveTokens_expands tokens).2.2.2 hacyclic
  obtain ⟨done', hdone', -, horders⟩ := hrun fun name hname => by
    rw [← hunique _ (expands_iff.mpr (spells_of_resolveTokens hdone)) name hname]
    exact hregex name hname
  obtain rfl : done = done' := Except.ok.inj (hdone.symm.trans hdone')
  have hahead : References circle "A" "B" :=
    ⟨"x<B>", ['x'], [], rfl, rfl, ⟨'B', [], rfl, by decide, by simp⟩, by decide⟩
  have hback : References circle "B" "A" :=
    ⟨"<A>", [], [], rfl, rfl, ⟨'A', [], rfl, by decide, by simp⟩, by decide⟩
  have hcircle : resolveTokens circle = .error (.tokenCycle ["A", "B", "A"]) := by decide +kernel
  exact ⟨hacyclic, hregex, hdone, horders _ (by decide) 3 (by decide),
    .tail (.single hahead) hback, hcircle, ((resolveTokens_expands circle).2.2.1 _ hcircle).2.1⟩

end Trialbook.Rule

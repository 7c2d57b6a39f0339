import Trialbook.Proofs.Search
import Mathlib.Data.Finset.Card
import Mathlib.Data.Finset.Prod

/-!
# The search finds a match if there is one

Two things could make a search miss a match: the record of what has been tried,
which cuts branches off, and the fuel. Neither does.

What a thread can go on to do depends on its tasks and its place alone, which is
all that the record keeps of it (`Thread.mark`). When a search comes to nothing,
what it has tried is closed under steps (`closed_of_explore`), and from a closed
set a match leads nowhere else (`Closed.of_matches`). So a match that begins at a
thread that was tried would have ended among those tried as well, and a search
stops at the end of a match.

The fuel pays for one thread of the worklist at each turn. A thread that is new
brings two others at most, so the variant is the length of the worklist and twice
the number of marks that are still to come. `Core.agenda` lists what can be left
to match on the way, and `Core.stateCount` is its length.
-/

namespace Trialbook

namespace Pattern

/-- What a search remembers of a thread: what is left to match, and the place. -/
abbrev Mark := List Task × Nat

def Thread.mark (t : Thread) : Mark := (t.tasks, t.cursor.position)

/-- All that can be left to match while a pattern is matched that the rest
comes after. -/
def Core.agenda : Core → List Task → List (List Task)
  | .empty, rest => [.match .empty :: rest]
  | .set points, rest => [.match (.set points) :: rest]
  | .look condition, rest => [.match (.look condition) :: rest]
  | .group index body, rest =>
    (.match (.group index body) :: rest) ::
      (body.agenda (.close index :: rest) ++ [.close index :: rest])
  | .cat first second, rest =>
    (.match (.cat first second) :: rest) ::
      (first.agenda (.match second :: rest) ++ second.agenda rest)
  | .alt first second, rest =>
    (.match (.alt first second) :: rest) :: (first.agenda rest ++ second.agenda rest)
  | .loop greedy body, rest =>
    (.match (.loop greedy body) :: rest) :: body.agenda (.match (.loop greedy body) :: rest)
  | .plus greedy body, rest =>
    (.match (.plus greedy body) :: rest) :: (.match (.loop greedy body) :: rest) ::
      body.agenda (.match (.loop greedy body) :: rest)

theorem length_agenda (core : Core) (rest : List Task) :
    (core.agenda rest).length = core.stateCount := by
  induction core generalizing rest with
  | empty | set | look => rfl
  | group index body ih => simp [Core.agenda, Core.stateCount, ih]
  | cat first second ih ih' => simp [Core.agenda, Core.stateCount, ih, ih']
  | alt first second ih ih' => simp [Core.agenda, Core.stateCount, ih, ih']
  | loop greedy body ih | plus greedy body ih => simp [Core.agenda, Core.stateCount, ih]

theorem match_mem_agenda (core : Core) (rest : List Task) :
    .match core :: rest ∈ core.agenda rest := by
  cases core <;> simp [Core.agenda]

/-! ## A step and its marks -/

theorem Thread.length_step_le (t : Thread) : t.step.length ≤ 2 := by
  unfold step
  repeat' split
  all_goals simp

/-- The slots have no say in where a thread can go. -/
theorem Thread.map_mark_step (tasks : List Task) (cursor : Cursor) (own own' : Slots) :
    (Thread.step ⟨tasks, cursor, own⟩).map mark =
      (Thread.step ⟨tasks, cursor, own'⟩).map mark := by
  cases tasks with
  | nil => rfl
  | cons task rest =>
      cases task with
      | close index => rfl
      | «match» core =>
          cases core with
          | empty | group | cat | alt | plus => rfl
          | set points =>
              simp only [step]
              split
              · rfl
              · split <;> rfl
          | look condition =>
              simp only [step]
              split <;> rfl
          | loop greedy body => cases greedy <;> rfl

theorem tasks_of_step_loop {greedy : Bool} {body : Core} {rest : List Task} {cursor : Cursor}
    {own : Slots} {t : Thread}
    (h : t ∈ Thread.step ⟨.match (.loop greedy body) :: rest, cursor, own⟩) :
    t.tasks = .match body :: .match (.loop greedy body) :: rest ∨ t.tasks = rest := by
  have htasks := List.mem_map_of_mem (f := Thread.tasks) h
  cases greedy with
  | false => simpa [Thread.step, or_comm] using htasks
  | true => simpa [Thread.step] using htasks

theorem mem_agenda_of_step {core : Core} {rest : List Task} {t t' : Thread}
    (ht : t.tasks ∈ core.agenda rest) (h : t' ∈ t.step) :
    t'.tasks = rest ∨ t'.tasks ∈ core.agenda rest := by
  obtain ⟨tasks, cursor, own⟩ := t
  induction core generalizing rest with
  | empty =>
      obtain rfl := List.mem_singleton.mp ht
      rw [Thread.step, List.mem_singleton] at h
      exact Or.inl (congrArg Thread.tasks h)
  | set points =>
      obtain rfl := List.mem_singleton.mp ht
      simp only [Thread.step] at h
      split at h
      · simp at h
      · split at h
        · exact Or.inl (congrArg Thread.tasks (List.mem_singleton.mp h))
        · simp at h
  | look condition =>
      obtain rfl := List.mem_singleton.mp ht
      simp only [Thread.step] at h
      split at h
      · exact Or.inl (congrArg Thread.tasks (List.mem_singleton.mp h))
      · simp at h
  | group index body ih =>
      rw [Core.agenda, List.mem_cons, List.mem_append, List.mem_singleton] at ht ⊢
      rcases ht with rfl | ht | rfl
      · rw [Thread.step, List.mem_singleton] at h
        subst h
        exact Or.inr (Or.inr (Or.inl (match_mem_agenda body _)))
      · rcases ih ht with hrest | hinner
        · exact Or.inr (Or.inr (Or.inr hrest))
        · exact Or.inr (Or.inr (Or.inl hinner))
      · rw [Thread.step, List.mem_singleton] at h
        exact Or.inl (congrArg Thread.tasks h)
  | cat first second ih ih' =>
      rw [Core.agenda, List.mem_cons, List.mem_append] at ht ⊢
      rcases ht with rfl | ht | ht
      · rw [Thread.step, List.mem_singleton] at h
        subst h
        exact Or.inr (Or.inr (Or.inl (match_mem_agenda first _)))
      · rcases ih ht with hnext | hfirst
        · rw [hnext]
          exact Or.inr (Or.inr (Or.inr (match_mem_agenda second rest)))
        · exact Or.inr (Or.inr (Or.inl hfirst))
      · exact (ih' ht).imp_right fun hsecond => Or.inr (Or.inr hsecond)
  | alt first second ih ih' =>
      rw [Core.agenda, List.mem_cons, List.mem_append] at ht ⊢
      rcases ht with rfl | ht | ht
      · rw [Thread.step, List.mem_cons, List.mem_singleton] at h
        rcases h with rfl | rfl
        · exact Or.inr (Or.inr (Or.inl (match_mem_agenda first rest)))
        · exact Or.inr (Or.inr (Or.inr (match_mem_agenda second rest)))
      · exact (ih ht).imp_right fun hfirst => Or.inr (Or.inl hfirst)
      · exact (ih' ht).imp_right fun hsecond => Or.inr (Or.inr hsecond)
  | loop greedy body ih =>
      rw [Core.agenda, List.mem_cons] at ht ⊢
      rcases ht with rfl | ht
      · rcases tasks_of_step_loop h with hmore | hdone
        · rw [hmore]
          exact Or.inr (Or.inr (match_mem_agenda body _))
        · exact Or.inl hdone
      · exact (ih ht).elim (fun hagain => Or.inr (Or.inl hagain)) fun hbody =>
          Or.inr (Or.inr hbody)
  | plus greedy body ih =>
      rw [Core.agenda, List.mem_cons, List.mem_cons] at ht ⊢
      rcases ht with rfl | rfl | ht
      · rw [Thread.step, List.mem_singleton] at h
        subst h
        exact Or.inr (Or.inr (Or.inr (match_mem_agenda body _)))
      · rcases tasks_of_step_loop h with hmore | hdone
        · rw [hmore]
          exact Or.inr (Or.inr (Or.inr (match_mem_agenda body _)))
        · exact Or.inl hdone
      · exact (ih ht).elim (fun hagain => Or.inr (Or.inr (Or.inl hagain))) fun hbody =>
          Or.inr (Or.inr (Or.inr hbody))

/-! ## The record -/

/-- The record holds these marks. -/
def Tried.Holds (tried : Tried) (marks : Finset Mark) : Prop :=
  ∀ t : Thread, tried.has t = true ↔ t.mark ∈ marks

theorem Tried.holds_replicate (count : Nat) : Tried.Holds (Array.replicate count []) ∅ := by
  intro t
  have hnone : (Array.replicate count ([] : List (List Task))).getD t.cursor.position [] = [] := by
    rw [Array.getD_eq_getD_getElem?, Array.getElem?_replicate]
    split <;> rfl
  rw [Tried.has, hnone]
  simp

theorem Tried.Holds.add {tried : Tried} {marks : Finset Mark} (h : tried.Holds marks)
    {t : Thread} (ht : t.cursor.position < tried.size) :
    (tried.add t).Holds (insert t.mark marks) := by
  intro t'
  rw [Finset.mem_insert, ← h t', Tried.has, Tried.has, Tried.add,
    Array.getD_eq_getD_getElem?, Array.getElem?_setIfInBounds]
  by_cases hplace : t.cursor.position = t'.cursor.position
  · rw [if_pos hplace, if_pos ht, ← hplace]
    simp [Thread.mark, hplace]
  · rw [if_neg hplace, ← Array.getD_eq_getD_getElem?]
    simp [Thread.mark, Ne.symm hplace]

/-! ## What a search leaves behind -/

theorem Cursor.InText.position_le {cursor : Cursor} {cs : List Char} (h : cursor.InText cs) :
    cursor.position ≤ cs.length := by
  obtain ⟨before, ahead, rfl, rfl⟩ := h
  simp [between]

theorem Cursor.InText.eq {cursor cursor' : Cursor} {cs : List Char} (h : cursor.InText cs)
    (h' : cursor'.InText cs) (hposition : cursor.position = cursor'.position) :
    cursor = cursor' := by
  obtain ⟨before, ahead, rfl, htext⟩ := h
  obtain ⟨before', ahead', rfl, htext'⟩ := h'
  have hlength : before.reverse.length = before'.reverse.length := by
    simpa [between] using hposition
  obtain ⟨hbefore, rfl⟩ := List.append_inj (htext.trans htext'.symm) hlength
  rw [List.reverse_injective hbefore]

/-- Every step from the marks stays among them. -/
def Closed (cs : List Char) (marks : Finset Mark) : Prop :=
  ∀ t : Thread, t.cursor.InText cs → t.mark ∈ marks → ∀ t' ∈ t.step, t'.mark ∈ marks

/-- A search on its way, within a scope of marks: none of those it has tried was
the end of a match, and what it has yet to try is all that is missing for them to
be closed. -/
structure Underway (cs : List Char) (scope : Finset Mark) (ts : List Thread) (tried : Tried)
    (marks : Finset Mark) : Prop where
  size : tried.size = cs.length + 1
  holds : tried.Holds marks
  inText : ∀ t ∈ ts, t.cursor.InText cs
  inScope : ∀ t ∈ ts, t.tasks = [] ∨ t.mark ∈ scope
  within : marks ⊆ scope
  unfinished : ∀ m ∈ marks, m.1 ≠ []
  pending : ∀ t : Thread, t.cursor.InText cs → t.mark ∈ marks → ∀ t' ∈ t.step,
    t'.mark ∈ marks ∨ t'.mark ∈ ts.map Thread.mark

namespace Underway

variable {cs : List Char} {scope marks : Finset Mark} {t : Thread} {ts : List Thread}
  {tried : Tried}

theorem closed (h : Underway cs scope [] tried marks) : Closed cs marks :=
  fun t hcursor ht t' ht' => by simpa using h.pending t hcursor ht t' ht'

/-- What has been tried need not be tried again. -/
theorem skip (h : Underway cs scope (t :: ts) tried marks) (ht : t.mark ∈ marks) :
    Underway cs scope ts tried marks where
  size := h.size
  holds := h.holds
  inText s hs := h.inText s (List.mem_cons_of_mem _ hs)
  inScope s hs := h.inScope s (List.mem_cons_of_mem _ hs)
  within := h.within
  unfinished := h.unfinished
  pending s hcursor hs s' hs' := by
    rcases h.pending s hcursor hs s' hs' with hin | hts
    · exact Or.inl hin
    · rw [List.map_cons, List.mem_cons] at hts
      rcases hts with heq | hts
      · exact Or.inl (heq ▸ ht)
      · exact Or.inr hts

/-- What has not been tried makes room for where it leads. -/
theorem take (h : Underway cs scope (t :: ts) tried marks) (hopen : t.tasks ≠ [])
    (hstay : ∀ t' ∈ t.step, t'.tasks = [] ∨ t'.mark ∈ scope) :
    Underway cs scope (t.step ++ ts) (tried.add t) (insert t.mark marks) where
  size := by rw [Tried.add, Array.size_setIfInBounds, h.size]
  holds := h.holds.add (by
    have hle := (h.inText t List.mem_cons_self).position_le
    rw [h.size]
    omega)
  inText s hs := by
    rcases List.mem_append.mp hs with hs | hs
    · exact (Thread.Finishes.of_step (h.inText t List.mem_cons_self) hs).1
    · exact h.inText s (List.mem_cons_of_mem _ hs)
  inScope s hs := by
    rcases List.mem_append.mp hs with hs | hs
    · exact hstay s hs
    · exact h.inScope s (List.mem_cons_of_mem _ hs)
  within := Finset.insert_subset ((h.inScope t List.mem_cons_self).resolve_left hopen) h.within
  unfinished m hm := by
    rcases Finset.mem_insert.mp hm with rfl | hm
    · exact hopen
    · exact h.unfinished m hm
  pending s hcursor hs s' hs' := by
    rw [List.map_append, List.mem_append, Finset.mem_insert]
    by_cases hsame : s.mark = t.mark
    · -- the same tasks at the same place lead to the same marks
      obtain ⟨tasks, cursor, own⟩ := s
      obtain ⟨tasks', cursor', own'⟩ := t
      obtain ⟨rfl, hposition⟩ := Prod.mk.inj hsame
      obtain rfl := hcursor.eq (h.inText _ List.mem_cons_self) hposition
      have hmark := List.mem_map_of_mem (f := Thread.mark) hs'
      rw [Thread.map_mark_step tasks cursor own own'] at hmark
      exact Or.inr (Or.inl hmark)
    · have hold := (Finset.mem_insert.mp hs).resolve_left hsame
      rcases h.pending s hcursor hold s' hs' with hin | hts
      · exact Or.inl (Or.inr hin)
      · rw [List.map_cons, List.mem_cons] at hts
        rcases hts with heq | hts
        · exact Or.inl (Or.inl heq)
        · exact Or.inr (Or.inr hts)

/-- A search that comes to nothing has tried all that its worklist leads to. -/
theorem exists_closed (hstay : ∀ t : Thread, t.mark ∈ scope → ∀ t' ∈ t.step,
      t.cursor.InText cs → t'.tasks = [] ∨ t'.mark ∈ scope) {fuel : Nat}
    (h : Underway cs scope ts tried marks)
    (hfuel : ts.length + 2 * (scope \ marks).card ≤ fuel) (hnone : explore fuel ts tried = none) :
    ∃ all, Closed cs all ∧ (∀ t ∈ ts, t.mark ∈ all) ∧ marks ⊆ all ∧ ∀ m ∈ all, m.1 ≠ [] := by
  induction fuel generalizing ts tried marks with
  | zero =>
      obtain rfl := List.eq_nil_of_length_eq_zero (show ts.length = 0 by omega)
      exact ⟨marks, h.closed, by simp, Finset.Subset.refl marks, h.unfinished⟩
  | succ fuel ih =>
      cases ts with
      | nil => exact ⟨marks, h.closed, by simp, Finset.Subset.refl marks, h.unfinished⟩
      | cons t ts =>
          rw [explore] at hnone
          rw [List.length_cons] at hfuel
          split at hnone
          · next hhas =>
              have ht := (h.holds t).mp hhas
              obtain ⟨all, hall, hts, hmarks, hopen⟩ := ih (h.skip ht) (by omega) hnone
              refine ⟨all, hall, fun s hs => ?_, hmarks, hopen⟩
              rcases List.mem_cons.mp hs with rfl | hs
              · exact hmarks ht
              · exact hts s hs
          · next hhas =>
              have hnew : t.mark ∉ marks := fun ht => hhas ((h.holds t).mpr ht)
              split at hnone
              · simp at hnone
              · next htasks =>
                  have hopen : t.tasks ≠ [] := by simpa using htasks
                  have hscope := (h.inScope t List.mem_cons_self).resolve_left hopen
                  have hcard : (scope \ insert t.mark marks).card + 1 = (scope \ marks).card := by
                    rw [Finset.sdiff_insert]
                    exact Finset.card_erase_add_one (Finset.mem_sdiff.mpr ⟨hscope, hnew⟩)
                  have hstep := t.length_step_le
                  obtain ⟨all, hall, hts, hmarks, hopen⟩ :=
                    ih (h.take hopen fun t' ht' =>
                        hstay t hscope t' ht' (h.inText t List.mem_cons_self))
                      (by rw [List.length_append]; omega) hnone
                  refine ⟨all, hall, fun s hs => ?_,
                    (Finset.subset_insert _ _).trans hmarks, hopen⟩
                  rcases List.mem_cons.mp hs with rfl | hs
                  · exact hmarks (Finset.mem_insert_self _ _)
                  · exact hts s (List.mem_append_right _ hs)

end Underway

/-! ## Matches and closed marks -/

namespace Closed

variable {cs : List Char} {marks : Finset Mark}

/-- A step between what has been read and what has not. -/
theorem step (h : Closed cs marks) {tasks : List Task} {before ahead : List Char} {t : Thread}
    (htext : before.reverse ++ ahead = cs) (hmark : (tasks, before.length) ∈ marks)
    (ht : t ∈ Thread.step ⟨tasks, .between before ahead, []⟩) :
    (t.tasks, t.cursor.position) ∈ marks :=
  h ⟨tasks, .between before ahead, []⟩ ⟨before, ahead, rfl, htext⟩ hmark t ht

theorem length_between (before text : List Char) :
    before.length + text.length = (text.reverse ++ before).length := by
  rw [List.length_append, List.length_reverse, Nat.add_comm]

/-- A mark behind one stretch leads on behind the next one. -/
theorem mem_of_behind {between rest : List Task} {before text text' : List Char}
    (hmark : (between, before.length + text.length) ∈ marks)
    (h : (between, (text.reverse ++ before).length) ∈ marks →
      (rest, (text.reverse ++ before).length + text'.length) ∈ marks) :
    (rest, before.length + (text ++ text').length) ∈ marks := by
  rw [length_between] at hmark
  rw [List.length_append, ← Nat.add_assoc, length_between]
  exact h hmark

/-- From marks that are closed a match leads to its end. -/
theorem of_matches (h : Closed cs marks) {core : Core} {before text behind : List Char}
    (hmatches : core.Matches before text behind) (htext : before.reverse ++ (text ++ behind) = cs)
    {rest : List Task} (hmark : (.match core :: rest, before.length) ∈ marks) :
    (rest, before.length + text.length) ∈ marks := by
  induction hmatches generalizing rest with
  | empty => exact h.step htext hmark List.mem_cons_self
  | @set points c before behind hc =>
      have hread : (⟨rest, .between (c :: before) behind, []⟩ : Thread) ∈
          Thread.step ⟨.match (.set points) :: rest, .between before (c :: behind), []⟩ := by
        simp [Thread.step, Cursor.between, Cursor.advance, hc]
      exact h.step htext hmark hread
  | @look condition before behind hlook =>
      have hpassed : (⟨rest, .between before behind, []⟩ : Thread) ∈
          Thread.step ⟨.match (.look condition) :: rest, .between before behind, []⟩ := by
        simp [Thread.step, Cursor.between, hlook]
      exact h.step htext hmark hpassed
  | @group index body before text behind _ ih =>
      have hclose := ih htext (h.step htext hmark List.mem_cons_self)
      have htext' : (text.reverse ++ before).reverse ++ behind = cs := by simpa using htext
      rw [length_between] at hclose ⊢
      exact h.step htext' hclose List.mem_cons_self
  | cat _ _ ih ih' =>
      have hsecond := ih (by simpa using htext) (h.step htext hmark List.mem_cons_self)
      exact mem_of_behind hsecond (ih' (by simpa using htext))
  | altFirst _ ih => exact ih htext (h.step htext hmark List.mem_cons_self)
  | altSecond _ ih =>
      exact ih htext (h.step htext hmark (List.mem_cons_of_mem _ List.mem_cons_self))
  | @loopDone greedy body before behind =>
      have hdone : (⟨rest, .between before behind, []⟩ : Thread) ∈
          Thread.step ⟨.match (.loop greedy body) :: rest, .between before behind, []⟩ := by
        cases greedy <;> simp [Thread.step]
      exact h.step htext hmark hdone
  | @loopMore greedy body before text text' behind _ _ ih ih' =>
      have hmore : (⟨.match body :: .match (.loop greedy body) :: rest,
          .between before (text ++ text' ++ behind), []⟩ : Thread) ∈
            Thread.step ⟨.match (.loop greedy body) :: rest,
              .between before (text ++ text' ++ behind), []⟩ := by
        cases greedy <;> simp [Thread.step]
      have hagain := ih (by simpa using htext) (h.step htext hmark hmore)
      exact mem_of_behind hagain (ih' (by simpa using htext))
  | plus _ _ ih ih' =>
      have hagain := ih (by simpa using htext) (h.step htext hmark List.mem_cons_self)
      exact mem_of_behind hagain (ih' (by simpa using htext))

end Closed

/-! ## The search -/

/-- The marks of a pattern and its end, at every place of a text. -/
def Core.scope (core : Core) (length : Nat) : Finset Mark :=
  ([.close 0] :: core.agenda [.close 0]).toFinset ×ˢ Finset.range (length + 1)

theorem card_scope_le (core : Core) (length : Nat) :
    (core.scope length).card ≤ (core.stateCount + 1) * (length + 1) := by
  rw [Core.scope, Finset.card_product, Finset.card_range, ← length_agenda core [.close 0]]
  exact Nat.mul_le_mul_right _ (List.toFinset_card_le _)

theorem mem_scope {core : Core} {length : Nat} {tasks : List Task} {place : Nat} :
    (tasks, place) ∈ core.scope length ↔
      (tasks = [.close 0] ∨ tasks ∈ core.agenda [.close 0]) ∧ place < length + 1 := by
  simp [Core.scope]

/-- Where a search for a pattern can get to from the group of the whole match. -/
theorem scope_step {core : Core} {cs : List Char} {place : Nat} {t t' : Thread}
    (hcursor : t.cursor.InText cs)
    (ht : t.mark ∈ insert ([.match (.group 0 core)], place) (core.scope cs.length))
    (h : t' ∈ t.step) :
    t'.tasks = [] ∨ t'.mark ∈ insert ([.match (.group 0 core)], place) (core.scope cs.length) := by
  have hplace : t'.cursor.position < cs.length + 1 :=
    Nat.lt_succ_of_le (Thread.Finishes.of_step hcursor h).1.position_le
  have hscope : t'.tasks = [.close 0] ∨ t'.tasks ∈ core.agenda [.close 0] →
      t'.mark ∈ insert ([.match (.group 0 core)], place) (core.scope cs.length) :=
    fun htasks => Finset.mem_insert_of_mem (mem_scope.mpr ⟨htasks, hplace⟩)
  rcases Finset.mem_insert.mp ht with hstart | ht
  · obtain ⟨tasks, cursor, own⟩ := t
    obtain ⟨rfl, -⟩ := Prod.mk.inj hstart
    rw [Thread.step, List.mem_singleton] at h
    subst h
    exact Or.inr (hscope (Or.inr (match_mem_agenda core _)))
  · rcases (mem_scope.mp ht).1 with hclose | hagenda
    · obtain ⟨tasks, cursor, own⟩ := t
      obtain rfl : tasks = [.close 0] := hclose
      rw [Thread.step, List.mem_singleton] at h
      exact Or.inl (congrArg Thread.tasks h)
    · exact Or.inr (hscope (mem_agenda_of_step hagenda h))

theorem isSome_matchFrom {core : Core} {cs before text behind : List Char}
    (hmatches : core.Matches before text behind)
    (htext : before.reverse ++ (text ++ behind) = cs) :
    (matchFrom core (.between before (text ++ behind)) cs.length).isSome = true := by
  rw [Option.isSome_iff_ne_none]
  intro hnone
  set start : Thread := ⟨[.match (.group 0 core)], .between before (text ++ behind), []⟩
  set scope := insert start.mark (core.scope cs.length) with hscope
  have hcursor : start.cursor.InText cs := ⟨before, text ++ behind, rfl, htext⟩
  have hstay : ∀ t : Thread, t.mark ∈ scope → ∀ t' ∈ t.step, t.cursor.InText cs →
      t'.tasks = [] ∨ t'.mark ∈ scope := fun t ht t' ht' hin => scope_step hin ht ht'
  have hbegin : Underway cs scope [start] (Array.replicate (cs.length + 1) []) ∅ :=
    { size := Array.size_replicate
      holds := Tried.holds_replicate _
      inText := by simpa using hcursor
      inScope := by simp [hscope]
      within := Finset.empty_subset _
      unfinished := by simp
      pending := by simp }
  -- the first turn opens the group of the whole match
  have hopened := hbegin.take (List.cons_ne_nil _ _) fun t' ht' =>
    hstay start (Finset.mem_insert_self _ _) t' ht' hcursor
  have hnew : ¬ (Tried.has (Array.replicate (cs.length + 1) []) start = true) := by
    rw [Tried.holds_replicate]
    simp
  rw [matchFrom, explore, if_neg hnew, if_neg (by simp)] at hnone
  have hfuel : (start.step ++ []).length + 2 * (scope \ insert start.mark ∅).card ≤
      2 * (core.stateCount + 1) * (cs.length + 1) + 1 := by
    have hcard := card_scope_le core cs.length
    have hle : (scope \ insert start.mark ∅).card ≤ (core.scope cs.length).card := by
      refine Finset.card_le_card fun m hm => ?_
      rw [Finset.mem_sdiff, hscope, Finset.mem_insert] at hm
      exact hm.1.resolve_left fun heq => hm.2 (heq ▸ Finset.mem_insert_self _ _)
    have hone : (start.step ++ []).length = 1 := rfl
    rw [hone, Nat.mul_assoc]
    omega
  obtain ⟨all, hall, hts, -, hopen⟩ := hopened.exists_closed hstay hfuel hnone
  have hclose := hall.of_matches hmatches htext (hts _ List.mem_cons_self)
  have hend : ([], (text.reverse ++ before).length) ∈ all := by
    have htext' : (text.reverse ++ before).reverse ++ behind = cs := by simpa using htext
    have hlength : before.length + text.length = (text.reverse ++ before).length := by
      rw [List.length_append, List.length_reverse, Nat.add_comm]
    rw [hlength] at hclose
    exact hall.step htext' hclose List.mem_cons_self
  exact hopen _ hend rfl

theorem isSome_matchAnywhere {core : Core} {cs front before text behind : List Char}
    (hmatches : core.Matches (front.reverse ++ before) text behind)
    (htext : before.reverse ++ (front ++ (text ++ behind)) = cs) {count : Nat}
    (hcount : front.length ≤ count) :
    (matchAnywhere core cs.length count (.between before (front ++ (text ++ behind)))).isSome =
      true := by
  induction front generalizing before count with
  | nil =>
      have hfrom := isSome_matchFrom hmatches (by simpa using htext)
      cases count with
      | zero => exact hfrom
      | succ count =>
          obtain ⟨slots, hslots⟩ := Option.isSome_iff_exists.mp hfrom
          rw [matchAnywhere]
          simp only [List.reverse_nil, List.nil_append] at hslots ⊢
          rw [hslots]
          rfl
  | cons c front ih =>
      cases count with
      | zero => simp at hcount
      | succ count =>
          rw [matchAnywhere]
          split
          · rfl
          · exact ih (by simpa using hmatches) (by simpa using htext) (by simpa using hcount)

end Pattern

/-- A search finds something exactly if the pattern matches somewhere in the
text. -/
theorem Pattern.isSome_search?_iff {p : Pattern} {path : String} :
    (p.search? path).isSome = true ↔
      ∃ before text behind, before.reverse ++ (text ++ behind) = path.toList ∧
        p.core.Matches before text behind := by
  constructor
  · intro h
    obtain ⟨captures, hsearch⟩ := Option.isSome_iff_exists.mp h
    obtain ⟨before, text, behind, inner, htext, hfills, -⟩ := fills_of_search? hsearch
    exact ⟨before, text, behind, htext, hfills.toMatches⟩
  · rintro ⟨before, text, behind, htext, hmatches⟩
    rw [search?, Option.isSome_map]
    have hlength : before.reverse.length ≤ path.toList.length := by
      rw [← htext]
      simp
    have hfound : (matchAnywhere p.core path.toList.length path.toList.length
        (.between [] (before.reverse ++ (text ++ behind)))).isSome = true :=
      isSome_matchAnywhere (by simpa using hmatches) (by simpa using htext) hlength
    rw [htext] at hfound
    exact hfound

end Trialbook

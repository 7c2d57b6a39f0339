import Trialbook.Pattern.Search
import Mathlib.Data.List.Basic

/-!
# What the search finds is a match

`Core.Matches` says which stretches of a text a pattern matches and says
nothing of groups. The search reports groups and is a loop over threads. What
stands between them is `Core.Fills`, the same relation with the slots that a
match fills, and `Fulfils`, its extension to a list of tasks.

The soundness of the loop is one lemma about one step. Whatever a thread can go
on to finish, the thread could finish itself (`Thread.Finishes.of_step`). Fuel
and the record of what has been tried play no part in it: both can only lose
matches.
-/

namespace Trialbook

namespace Pattern

/-- A stretch is matched by a pattern, which fills these slots, latest first. -/
inductive Core.Fills : Core → List Char → List Char → List Char → Slots → Prop where
  | empty {before behind : List Char} : Fills .empty before [] behind []
  | set {points : CharSet} {c : Char} {before behind : List Char}
      (h : points.contains c.toNat = true) : Fills (.set points) before [c] behind []
  | look {condition : Look} {before behind : List Char}
      (h : condition.holds before.head? behind.head? = true) :
      Fills (.look condition) before [] behind []
  | group {index : Nat} {body : Core} {before text behind : List Char} {slots : Slots}
      (h : Fills body before text behind slots) :
      Fills (.group index body) before text behind
        ((2 * index + 1, before.length + text.length) :: slots ++ [(2 * index, before.length)])
  | cat {first second : Core} {before text text' behind : List Char} {slots slots' : Slots}
      (h : Fills first before text (text' ++ behind) slots)
      (h' : Fills second (text.reverse ++ before) text' behind slots') :
      Fills (.cat first second) before (text ++ text') behind (slots' ++ slots)
  | altFirst {first second : Core} {before text behind : List Char} {slots : Slots}
      (h : Fills first before text behind slots) :
      Fills (.alt first second) before text behind slots
  | altSecond {first second : Core} {before text behind : List Char} {slots : Slots}
      (h : Fills second before text behind slots) :
      Fills (.alt first second) before text behind slots
  | loopDone {greedy : Bool} {body : Core} {before behind : List Char} :
      Fills (.loop greedy body) before [] behind []
  | loopMore {greedy : Bool} {body : Core} {before text text' behind : List Char}
      {slots slots' : Slots} (h : Fills body before text (text' ++ behind) slots)
      (h' : Fills (.loop greedy body) (text.reverse ++ before) text' behind slots') :
      Fills (.loop greedy body) before (text ++ text') behind (slots' ++ slots)
  | plus {greedy : Bool} {body : Core} {before text text' behind : List Char}
      {slots slots' : Slots} (h : Fills body before text (text' ++ behind) slots)
      (h' : Fills (.loop greedy body) (text.reverse ++ before) text' behind slots') :
      Fills (.plus greedy body) before (text ++ text') behind (slots' ++ slots)

/-- What is left to match is matched, one task after the other. -/
inductive Fulfils : List Task → List Char → List Char → List Char → Slots → Prop where
  | done {before behind : List Char} : Fulfils [] before [] behind []
  | core {core : Core} {rest : List Task} {before text text' behind : List Char}
      {slots slots' : Slots} (h : core.Fills before text (text' ++ behind) slots)
      (h' : Fulfils rest (text.reverse ++ before) text' behind slots') :
      Fulfils (.match core :: rest) before (text ++ text') behind (slots' ++ slots)
  | close {index : Nat} {rest : List Task} {before text behind : List Char} {slots : Slots}
      (h : Fulfils rest before text behind slots) :
      Fulfils (.close index :: rest) before text behind
        (slots ++ [(2 * index + 1, before.length)])

namespace Core.Fills

variable {core : Core} {before text behind : List Char} {slots : Slots}

theorem toMatches (h : core.Fills before text behind slots) : core.Matches before text behind := by
  induction h with
  | empty => exact .empty
  | set h => exact .set h
  | look h => exact .look h
  | group _ ih => exact .group ih
  | cat _ _ ih ih' => exact .cat ih ih'
  | altFirst _ ih => exact .altFirst ih
  | altSecond _ ih => exact .altSecond ih
  | loopDone => exact .loopDone
  | loopMore _ _ ih ih' => exact .loopMore ih ih'
  | plus _ _ ih ih' => exact .plus ih ih'

end Core.Fills

namespace Fulfils

variable {core first second : Core} {rest : List Task} {before text behind : List Char}
  {slots : Slots}

/-- A pattern that matches the empty stretch is passed over. -/
theorem skip (h : core.Fills before [] (text ++ behind) [])
    (hrest : Fulfils rest before text behind slots) :
    Fulfils (.match core :: rest) before text behind slots := by
  have := Fulfils.core h hrest
  rwa [List.nil_append, List.append_nil] at this

/-- A pattern may be matched through another one. -/
theorem instead (hcore : ∀ {text behind slots}, first.Fills before text behind slots →
      core.Fills before text behind slots)
    (h : Fulfils (.match first :: rest) before text behind slots) :
    Fulfils (.match core :: rest) before text behind slots := by
  cases h with
  | core hfirst hrest => exact .core (hcore hfirst) hrest

/-- A pattern may be matched through two others, one after the other. -/
theorem join (hcore : ∀ u v {behind slots slots'}, first.Fills before u (v ++ behind) slots →
      second.Fills (u.reverse ++ before) v behind slots' →
      core.Fills before (u ++ v) behind (slots' ++ slots))
    (h : Fulfils (.match first :: .match second :: rest) before text behind slots) :
    Fulfils (.match core :: rest) before text behind slots := by
  cases h with
  | @core _ _ _ u _ _ _ _ hfirst hothers =>
      cases hothers with
      | @core _ _ _ v w _ _ more hsecond hrest =>
          rw [List.append_assoc] at hfirst
          have hrest : Fulfils rest ((u ++ v).reverse ++ before) w behind more := by
            simpa using hrest
          have := Fulfils.core (hcore u v hfirst hsecond) hrest
          simpa using this

end Fulfils

/-! ## One step -/

namespace Cursor

/-- The place between what has been read, last character first, and what has
not. -/
def between (before ahead : List Char) : Cursor := ⟨before.length, before.head?, ahead⟩

/-- Whether the cursor is a place in the text. -/
def InText (cursor : Cursor) (cs : List Char) : Prop :=
  ∃ before ahead, cursor = between before ahead ∧ before.reverse ++ ahead = cs

end Cursor

/-- A thread in a text can come to an end, and these are its slots then. -/
def Thread.Finishes (t : Thread) (cs : List Char) (slots : Slots) : Prop :=
  ∃ before text behind more, t.cursor = .between before (text ++ behind) ∧
    before.reverse ++ (text ++ behind) = cs ∧ Fulfils t.tasks before text behind more ∧
    slots = more ++ t.slots

namespace Thread

/-- The place of a thread in a text leaves no choice of what it has read. -/
theorem finishes_iff {tasks : List Task} {own : Slots} {cs before ahead : List Char}
    (htext : before.reverse ++ ahead = cs) {slots : Slots} :
    Thread.Finishes ⟨tasks, .between before ahead, own⟩ cs slots ↔
      ∃ text behind more, ahead = text ++ behind ∧ Fulfils tasks before text behind more ∧
        slots = more ++ own := by
  constructor
  · rintro ⟨before', text, behind, more, hplace, htext', hfulfils, rfl⟩
    have hplace : Cursor.between before ahead = .between before' (text ++ behind) := hplace
    have hahead : ahead = text ++ behind := (Cursor.mk.inj hplace).2.2
    have hbefore : before' = before := by
      rw [← htext, ← hahead] at htext'
      exact List.reverse_injective (List.append_cancel_right htext')
    exact ⟨text, behind, more, hahead, hbefore ▸ hfulfils, rfl⟩
  · rintro ⟨text, behind, more, rfl, hfulfils, rfl⟩
    exact ⟨before, text, behind, more, rfl, htext, hfulfils, rfl⟩

theorem finishes_of_tasks_eq_nil {t : Thread} {cs : List Char} (hcursor : t.cursor.InText cs)
    (h : t.tasks = []) : t.Finishes cs t.slots := by
  obtain ⟨before, ahead, hbetween, htext⟩ := hcursor
  refine ⟨before, [], ahead, [], hbetween, htext, ?_, rfl⟩
  rw [h]
  exact .done

/-- A thread with other tasks at the same place. -/
theorem Finishes.of_tasks {tasks tasks' : List Task} {own slots : Slots}
    {cs before ahead : List Char} (htext : before.reverse ++ ahead = cs)
    (hnext : ∀ text behind more, Fulfils tasks' before text behind more →
      Fulfils tasks before text behind more)
    (h : Thread.Finishes ⟨tasks', .between before ahead, own⟩ cs slots) :
    Thread.Finishes ⟨tasks, .between before ahead, own⟩ cs slots := by
  obtain ⟨text, behind, more, rfl, hfulfils, rfl⟩ := (finishes_iff htext).mp h
  exact (finishes_iff htext).mpr ⟨text, behind, more, rfl, hnext _ _ _ hfulfils, rfl⟩

/-- A step stays in the text, and what it leads to it could have finished. -/
theorem Finishes.of_step {t t' : Thread} {cs : List Char} (hcursor : t.cursor.InText cs)
    (h : t' ∈ t.step) :
    t'.cursor.InText cs ∧ ∀ slots, t'.Finishes cs slots → t.Finishes cs slots := by
  obtain ⟨tasks, cursor, own⟩ := t
  have hplace := hcursor
  obtain ⟨before, ahead, hbetween, htext⟩ := hplace
  have hbetween : cursor = .between before ahead := hbetween
  subst hbetween
  -- A case for each task, and for a pattern one for each of its constructors.
  cases tasks with
  | nil => simp [step] at h
  | cons task rest =>
      cases task with
      | close index =>
          rw [step, List.mem_singleton] at h
          subst h
          refine ⟨hcursor, fun slots hnext => (finishes_iff htext).mpr ?_⟩
          obtain ⟨text, behind, more, rfl, hrest, rfl⟩ := (finishes_iff htext).mp hnext
          exact ⟨text, behind, _, rfl, .close hrest, by simp [Cursor.between]⟩
      | «match» core =>
          cases core with
          | empty =>
              rw [step, List.mem_singleton] at h
              subst h
              exact ⟨hcursor, fun _ => .of_tasks htext fun _ _ _ => .skip .empty⟩
          | set points =>
              cases ahead with
              | nil => simp [step, Cursor.between] at h
              | cons c ahead =>
                  simp only [step, Cursor.between] at h
                  split at h
                  · next hc =>
                      rw [List.mem_singleton] at h
                      subst h
                      have htext' : (c :: before).reverse ++ ahead = cs := by simpa using htext
                      refine ⟨⟨c :: before, ahead, rfl, htext'⟩, fun slots hnext => ?_⟩
                      obtain ⟨text, behind, more, rfl, hrest, rfl⟩ :=
                        (finishes_iff htext').mp hnext
                      refine (finishes_iff htext).mpr ⟨[c] ++ text, behind, _, rfl,
                        .core (.set hc) hrest, by simp⟩
                  · simp at h
          | look condition =>
              replace h : t' ∈ (if condition.holds before.head? ahead.head? = true then
                [(⟨rest, .between before ahead, own⟩ : Thread)] else []) := h
              split at h
              · next hlook =>
                  rw [List.mem_singleton] at h
                  subst h
                  refine ⟨hcursor, fun slots hnext => (finishes_iff htext).mpr ?_⟩
                  obtain ⟨text, behind, more, rfl, hrest, rfl⟩ := (finishes_iff htext).mp hnext
                  exact ⟨text, behind, _, rfl, .skip (.look hlook) hrest, rfl⟩
              · simp at h
          | group index body =>
              rw [step, List.mem_singleton] at h
              subst h
              refine ⟨hcursor, fun slots hnext => (finishes_iff htext).mpr ?_⟩
              obtain ⟨text, behind, more, rfl, hbody, rfl⟩ := (finishes_iff htext).mp hnext
              cases hbody with
              | core hbody hclose =>
                  cases hclose with
                  | close hrest =>
                      refine ⟨_, behind, _, rfl, .core (.group hbody) hrest, ?_⟩
                      simp [Cursor.between, Nat.add_comm]
          | cat first second =>
              rw [step, List.mem_singleton] at h
              subst h
              exact ⟨hcursor, fun _ => .of_tasks htext fun _ _ _ => .join fun _ _ => .cat⟩
          | alt first second =>
              rw [step, List.mem_cons, List.mem_singleton] at h
              rcases h with rfl | rfl
              · exact ⟨hcursor, fun _ => .of_tasks htext fun _ _ _ => .instead .altFirst⟩
              · exact ⟨hcursor, fun _ => .of_tasks htext fun _ _ _ => .instead .altSecond⟩
          | loop greedy body =>
              have hmem : t' = ⟨.match body :: .match (.loop greedy body) :: rest,
                  .between before ahead, own⟩ ∨ t' = ⟨rest, .between before ahead, own⟩ := by
                cases greedy
                · simpa [step, or_comm] using h
                · simpa [step] using h
              rcases hmem with rfl | rfl
              · exact ⟨hcursor, fun _ => .of_tasks htext fun _ _ _ => .join fun _ _ => .loopMore⟩
              · exact ⟨hcursor, fun _ => .of_tasks htext fun _ _ _ => .skip .loopDone⟩
          | plus greedy body =>
              rw [step, List.mem_singleton] at h
              subst h
              exact ⟨hcursor, fun _ => .of_tasks htext fun _ _ _ => .join fun _ _ => .plus⟩

end Thread

/-! ## The loop -/

theorem exists_finishes_of_explore {cs : List Char} {fuel : Nat} {ts : List Thread}
    {tried : Tried} {slots : Slots} (hts : ∀ t ∈ ts, t.cursor.InText cs)
    (h : explore fuel ts tried = some slots) : ∃ t ∈ ts, t.Finishes cs slots := by
  induction fuel generalizing ts tried with
  | zero => rw [explore] at h; simp at h
  | succ fuel ih =>
      cases ts with
      | nil => rw [explore] at h; simp at h
      | cons t rest =>
          have hrest : ∀ t ∈ rest, t.cursor.InText cs := fun t ht =>
            hts t (List.mem_cons_of_mem _ ht)
          have hcursor := hts t List.mem_cons_self
          rw [explore] at h
          split at h
          · obtain ⟨t', ht', hfinishes⟩ := ih hrest h
            exact ⟨t', List.mem_cons_of_mem _ ht', hfinishes⟩
          · split at h
            · next hdone =>
                injection h with h
                refine ⟨t, List.mem_cons_self, ?_⟩
                rw [← h]
                exact Thread.finishes_of_tasks_eq_nil hcursor (by simpa using hdone)
            · obtain ⟨t', ht', hfinishes⟩ := ih (fun t' ht' => by
                rcases List.mem_append.mp ht' with ht' | ht'
                · exact (Thread.Finishes.of_step hcursor ht').1
                · exact hrest t' ht') h
              rcases List.mem_append.mp ht' with ht' | ht'
              · exact ⟨t, List.mem_cons_self, (Thread.Finishes.of_step hcursor ht').2 _ hfinishes⟩
              · exact ⟨t', List.mem_cons_of_mem _ ht', hfinishes⟩

theorem fills_of_matchFrom {core : Core} {cursor : Cursor} {cs : List Char} {length : Nat}
    {slots : Slots} (hcursor : cursor.InText cs) (h : matchFrom core cursor length = some slots) :
    ∃ before text behind inner, before.reverse ++ (text ++ behind) = cs ∧
      core.Fills before text behind inner ∧
      slots = (1, before.length + text.length) :: inner ++ [(0, before.length)] := by
  obtain ⟨t, ht, hfinishes⟩ := exists_finishes_of_explore (by simpa using hcursor) h
  rw [List.mem_singleton] at ht
  subst ht
  obtain ⟨before, text, behind, more, _, htext, hfulfils, rfl⟩ := hfinishes
  cases hfulfils with
  | core hgroup hdone =>
      cases hdone
      cases hgroup with
      | group hcore => exact ⟨before, _, behind, _, by simpa using htext, hcore, by simp⟩

theorem fills_of_matchAnywhere {core : Core} {cursor : Cursor} {cs : List Char}
    {length count : Nat} {slots : Slots} (hcursor : cursor.InText cs)
    (h : matchAnywhere core length count cursor = some slots) :
    ∃ before text behind inner, before.reverse ++ (text ++ behind) = cs ∧
      core.Fills before text behind inner ∧
      slots = (1, before.length + text.length) :: inner ++ [(0, before.length)] := by
  induction count generalizing cursor with
  | zero => exact fills_of_matchFrom hcursor h
  | succ count ih =>
      rw [matchAnywhere] at h
      split at h
      · next found hfound =>
          injection h with h
          exact fills_of_matchFrom hcursor (h ▸ hfound)
      · split at h
        · simp at h
        · next c ahead hahead =>
            obtain ⟨before, ahead', rfl, htext⟩ := hcursor
            have hahead : ahead' = c :: ahead := hahead
            subst hahead
            exact ih ⟨c :: before, ahead, rfl, by simpa using htext⟩ h

end Pattern

/-- What a search returns is a match of the pattern somewhere in the text, with
the slots of that match. -/
theorem Pattern.fills_of_search? {p : Pattern} {path : String} {captures : Captures}
    (h : p.search? path = some captures) :
    ∃ before text behind inner, before.reverse ++ (text ++ behind) = path.toList ∧
      p.core.Fills before text behind inner ∧
      captures = ⟨path.toList,
        (1, before.length + text.length) :: inner ++ [(0, before.length)], p.names⟩ := by
  rw [search?, Option.map_eq_some_iff] at h
  obtain ⟨slots, hslots, rfl⟩ := h
  obtain ⟨before, text, behind, inner, htext, hfills, rfl⟩ :=
    fills_of_matchAnywhere ⟨[], path.toList, rfl, rfl⟩ hslots
  exact ⟨before, text, behind, inner, htext, hfills, rfl⟩

end Trialbook

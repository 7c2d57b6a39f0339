import Trialbook.Proofs.Numbering
import Trialbook.Proofs.Search

/-!
# What the groups of a match hold

A match leaves a log behind: whenever a group ends, its number and the stretch it
has matched, latest first (`Core.Takes`). What a search captures for a group is its
latest entry there (`Pattern.takes_of_search?`).

The search keeps two slots for a group, one for each end, and not the log. That the
latest slots are both of the same stretch is no matter of course. It holds because no
group stands inside of itself (`Core.Apart`), and so the slots of a group have none
of its own between them.
-/

namespace Trialbook.Pattern

namespace Core

/-- No group stands inside of itself. -/
def Apart : Core → Prop
  | empty | set _ | look _ => True
  | group index body => index ∉ body.groups ∧ body.Apart
  | cat first second | alt first second => first.Apart ∧ second.Apart
  | loop _ body | plus _ body => body.Apart

theorem Made.apart {cores : List Core} {core : Core} (h : Made cores core)
    (hcores : ∀ c ∈ cores, c.Apart) : core.Apart := by
  induction h with
  | empty => trivial
  | given h => exact hcores _ h
  | cat _ _ ih ih' | alt _ _ ih ih' => exact ⟨ih, ih'⟩
  | loop _ ih | plus _ ih => exact ih

theorem apart_of_groups_eq_nil {core : Core} (h : core.groups = []) : core.Apart := by
  induction core with
  | empty | set | look => trivial
  | group => simp [groups] at h
  | cat _ _ ih ih' | alt _ _ ih ih' =>
      obtain ⟨hfirst, hsecond⟩ := List.append_eq_nil_iff.mp h
      exact ⟨ih hfirst, ih' hsecond⟩
  | loop _ _ ih | plus _ _ ih => exact ih h

/-- A stretch is matched by a pattern, and this is what its groups take on the way,
latest first. -/
inductive Takes : Core → List Char → List Char → List Char → List (Nat × List Char) → Prop where
  | empty {before behind : List Char} : Takes .empty before [] behind []
  | set {points : CharSet} {c : Char} {before behind : List Char}
      (h : points.contains c.toNat = true) : Takes (.set points) before [c] behind []
  | look {condition : Look} {before behind : List Char}
      (h : condition.holds before.head? behind.head? = true) :
      Takes (.look condition) before [] behind []
  | group {index : Nat} {body : Core} {before text behind : List Char}
      {taken : List (Nat × List Char)} (h : Takes body before text behind taken) :
      Takes (.group index body) before text behind ((index, text) :: taken)
  | cat {first second : Core} {before text text' behind : List Char}
      {taken taken' : List (Nat × List Char)} (h : Takes first before text (text' ++ behind) taken)
      (h' : Takes second (text.reverse ++ before) text' behind taken') :
      Takes (.cat first second) before (text ++ text') behind (taken' ++ taken)
  | altFirst {first second : Core} {before text behind : List Char}
      {taken : List (Nat × List Char)} (h : Takes first before text behind taken) :
      Takes (.alt first second) before text behind taken
  | altSecond {first second : Core} {before text behind : List Char}
      {taken : List (Nat × List Char)} (h : Takes second before text behind taken) :
      Takes (.alt first second) before text behind taken
  | loopDone {greedy : Bool} {body : Core} {before behind : List Char} :
      Takes (.loop greedy body) before [] behind []
  | loopMore {greedy : Bool} {body : Core} {before text text' behind : List Char}
      {taken taken' : List (Nat × List Char)} (h : Takes body before text (text' ++ behind) taken)
      (h' : Takes (.loop greedy body) (text.reverse ++ before) text' behind taken') :
      Takes (.loop greedy body) before (text ++ text') behind (taken' ++ taken)
  | plus {greedy : Bool} {body : Core} {before text text' behind : List Char}
      {taken taken' : List (Nat × List Char)} (h : Takes body before text (text' ++ behind) taken)
      (h' : Takes (.loop greedy body) (text.reverse ++ before) text' behind taken') :
      Takes (.plus greedy body) before (text ++ text') behind (taken' ++ taken)

namespace Takes

variable {core : Core} {before text behind : List Char} {taken : List (Nat × List Char)}

theorem toMatches (h : core.Takes before text behind taken) : core.Matches before text behind := by
  induction h with
  | empty => exact .empty
  | set h => exact .set h
  | look h => exact .look h
  | group _ ih => exact .group ih
  | cat _ _ ih ih' => exact .cat ih ih'
  | altFirst _ ih => exact .altFirst ih
  | altSecond _ ih => exact .altSecond ih
  | loopDone => exact .loopDone
  | loopMore _ _ ih ih' => exact .loopMore ih ih'
  | plus _ _ ih ih' => exact .plus ih ih'

theorem mem_groups (h : core.Takes before text behind taken) :
    ∀ entry ∈ taken, entry.1 ∈ core.groups := by
  induction h with
  | empty | set | look | loopDone => simp
  | group _ ih =>
      exact List.forall_mem_cons.mpr
        ⟨List.mem_cons_self, fun entry hentry => List.mem_cons_of_mem _ (ih entry hentry)⟩
  | cat _ _ ih ih' =>
      exact List.forall_mem_append.mpr
        ⟨fun entry hentry => List.mem_append_right _ (ih' entry hentry),
          fun entry hentry => List.mem_append_left _ (ih entry hentry)⟩
  | altFirst _ ih => exact fun entry hentry => List.mem_append_left _ (ih entry hentry)
  | altSecond _ ih => exact fun entry hentry => List.mem_append_right _ (ih entry hentry)
  | loopMore _ _ ih ih' | plus _ _ ih ih' => exact List.forall_mem_append.mpr ⟨ih', ih⟩

theorem lookup_eq_none (h : core.Takes before text behind taken) {index : Nat}
    (hindex : index ∉ core.groups) : taken.lookup index = none := by
  refine List.lookup_eq_none_iff.mpr fun entry hentry => ?_
  have hmem := h.mem_groups entry hentry
  have hne : index ≠ entry.1 := fun heq => hindex (heq ▸ hmem)
  simpa using hne

end Takes

end Core

/-! ## Groups in trees -/

theorem Core.Apart.grouped {c c' : Context} {core : Core} {kind : GroupKind} {names : List String}
    (h : core.Apart) (hnumbers : (c.inside kind).Numbers c' core.groups names) :
    (core.grouped c.nextGroup kind).Apart := by
  cases kind with
  | plain => exact h
  | numbered | named =>
      -- the groups inside of a group have higher numbers
      refine ⟨fun hmem => ?_, h⟩
      exact absurd (hnumbers.groups _ hmem).1 (Nat.not_succ_le_self _)

namespace Tree

variable [Dialect]

mutual

theorem apart_of_meaning (tree : Tree) {c c' : Context} {core : Core}
    (h : tree.meaning c = some (core, c')) : core.Apart := by
  cases tree with
  | empty | flags | position =>
      rw [meaning] at h
      obtain ⟨rfl, -⟩ := Prod.mk.inj (Option.some.inj h)
      trivial
  | literal | dot | cls =>
      rw [meaning] at h
      obtain ⟨points, -, h⟩ := Option.bind_eq_some_iff.mp h
      obtain ⟨rfl, -⟩ := Prod.mk.inj (Option.some.inj h)
      trivial
  | repetition least most greedy body =>
      obtain ⟨inner, hinner, rfl⟩ := exists_of_meaning_repetition h
      refine (Core.Made.repetition least most _ inner).apart fun core hcore => ?_
      rw [List.mem_singleton.mp hcore]
      exact apart_of_meaning body hinner
  | group kind body =>
      obtain ⟨inner, after, hinner, rfl, -⟩ := exists_of_meaning_group h
      exact (apart_of_meaning body hinner).grouped (numbers_of_meaning body hinner)
  | concat parts =>
      obtain ⟨cores, hcores, rfl⟩ := exists_of_meaning_concat h
      exact (Core.Made.sequence cores).apart (apart_of_meanings parts hcores)
  | alternation branches =>
      obtain ⟨cores, hcores, rfl⟩ := exists_of_meaning_alternation h
      exact (Core.Made.choice cores).apart (apart_of_meanings branches hcores)

theorem apart_of_meanings (trees : List Tree) {c c' : Context} {cores : List Core}
    (h : meanings trees c = some (cores, c')) : ∀ core ∈ cores, core.Apart := by
  cases trees with
  | nil =>
      rw [meanings] at h
      obtain ⟨rfl, -⟩ := Prod.mk.inj (Option.some.inj h)
      simp
  | cons tree rest =>
      obtain ⟨core, others, mid, hcore, hothers, rfl⟩ := exists_of_meanings_cons h
      exact List.forall_mem_cons.mpr ⟨apart_of_meaning tree hcore, apart_of_meanings rest hothers⟩

end

end Tree

/-! ## Slots -/

/-- The latest slots of each group lie around its latest entry in the log. -/
structure Slots.Hold (slots : Slots) (cs : List Char) (taken : List (Nat × List Char)) : Prop where
  absent : ∀ index, taken.lookup index = none →
    slots.lookup (2 * index) = none ∧ slots.lookup (2 * index + 1) = none
  present : ∀ index word, taken.lookup index = some word → ∃ front back,
    cs = front ++ (word ++ back) ∧ slots.lookup (2 * index) = some front.length ∧
      slots.lookup (2 * index + 1) = some (front.length + word.length)

namespace Slots.Hold

variable {slots slots' : Slots} {cs : List Char} {taken taken' : List (Nat × List Char)}

theorem nil (cs : List Char) : Slots.Hold [] cs [] := ⟨by simp, by simp⟩

theorem append (h' : slots'.Hold cs taken') (h : slots.Hold cs taken) :
    Slots.Hold (slots' ++ slots) cs (taken' ++ taken) := by
  refine ⟨fun index hnone => ?_, fun index word hword => ?_⟩
  · rw [List.lookup_append, Option.or_eq_none_iff] at hnone
    obtain ⟨hstart', hstop'⟩ := h'.absent index hnone.1
    rw [List.lookup_append, List.lookup_append, hstart', hstop']
    exact h.absent index hnone.2
  · rw [List.lookup_append] at hword
    cases hlater : taken'.lookup index with
    | some later =>
        rw [hlater] at hword
        obtain rfl := Option.some.inj hword
        obtain ⟨front, back, hcs, hstart, hstop⟩ := h'.present index later hlater
        refine ⟨front, back, hcs, ?_, ?_⟩
        · rw [List.lookup_append, hstart]
          rfl
        · rw [List.lookup_append, hstop]
          rfl
    | none =>
        rw [hlater] at hword
        obtain ⟨hstart', hstop'⟩ := h'.absent index hlater
        rw [List.lookup_append, List.lookup_append, hstart', hstop']
        exact h.present index word hword

/-- What is held in a stretch and what is held right behind it. -/
theorem behind {before text text' behind : List Char}
    (h : slots.Hold (before.reverse ++ (text ++ (text' ++ behind))) taken)
    (h' : slots'.Hold ((text.reverse ++ before).reverse ++ (text' ++ behind)) taken') :
    Slots.Hold (slots' ++ slots) (before.reverse ++ (text ++ text' ++ behind))
      (taken' ++ taken) := by
  rw [List.append_assoc]
  exact .append (by simpa using h') h

/-- A group without itself inside, and its two slots. -/
theorem group (h : slots.Hold cs taken) {index : Nat} (hindex : taken.lookup index = none)
    {front word back : List Char} (hcs : cs = front ++ (word ++ back)) :
    Slots.Hold ((2 * index + 1, front.length + word.length) :: slots ++
      [(2 * index, front.length)]) cs ((index, word) :: taken) := by
  obtain ⟨hstart, hstop⟩ := h.absent index hindex
  -- the slots of another group are those that it has inside
  have hother : ∀ {other slot : Nat}, other ≠ index → slot = 2 * other ∨ slot = 2 * other + 1 →
      ((2 * index + 1, front.length + word.length) :: slots ++
        [(2 * index, front.length)]).lookup slot = slots.lookup slot := by
    intro other slot hne hslot
    have hfirst : (slot == 2 * index + 1) = false := by
      rw [beq_eq_false_iff_ne]
      omega
    have hlast : (slot == 2 * index) = false := by
      rw [beq_eq_false_iff_ne]
      omega
    rw [List.cons_append, List.lookup_cons, hfirst, List.lookup_append]
    simp [List.lookup_cons, hlast]
  refine ⟨fun other hnone => ?_, fun other found hfound => ?_⟩
  · have hne : other ≠ index := by
      rintro rfl
      simp at hnone
    rw [hother hne (.inl rfl), hother hne (.inr rfl)]
    rw [List.lookup_cons, beq_eq_false_iff_ne.mpr hne] at hnone
    exact h.absent other hnone
  · by_cases hne : other = index
    · subst hne
      obtain rfl : word = found := by simpa using hfound
      refine ⟨front, back, hcs, ?_, by simp⟩
      rw [List.cons_append, List.lookup_cons, beq_eq_false_iff_ne.mpr (Nat.ne_of_lt
        (Nat.lt_succ_self _)), List.lookup_append, hstart]
      simp
    · rw [hother hne (.inl rfl), hother hne (.inr rfl)]
      rw [List.lookup_cons, beq_eq_false_iff_ne.mpr hne] at hfound
      exact h.present other found hfound

theorem group? {captures : Captures} (h : captures.slots.Hold captures.text taken) (index : Nat) :
    captures.group? index = (taken.lookup index).map String.ofList := by
  rw [Captures.group?]
  cases hword : taken.lookup index with
  | none =>
      rw [(h.absent index hword).1]
      rfl
  | some word =>
      obtain ⟨front, back, hcs, hstart, hstop⟩ := h.present index word hword
      rw [hstart, hstop, hcs]
      show some (String.ofList (((front ++ (word ++ back)).drop front.length).take
        (front.length + word.length - front.length))) = _
      rw [List.drop_left, Nat.add_sub_cancel_left, List.take_left]
      rfl

end Slots.Hold

/-- A match with its slots is one with its log. -/
theorem Core.Fills.exists_takes {core : Core} {before text behind : List Char} {slots : Slots}
    (h : core.Fills before text behind slots) (hapart : core.Apart) :
    ∃ taken, core.Takes before text behind taken ∧
      slots.Hold (before.reverse ++ (text ++ behind)) taken := by
  induction h with
  | empty => exact ⟨[], .empty, .nil _⟩
  | set h => exact ⟨[], .set h, .nil _⟩
  | look h => exact ⟨[], .look h, .nil _⟩
  | group _ ih =>
      obtain ⟨hindex, hbody⟩ := hapart
      obtain ⟨taken, htakes, hhold⟩ := ih hbody
      refine ⟨_, .group htakes, ?_⟩
      simpa using hhold.group (htakes.lookup_eq_none hindex) rfl
  | cat _ _ ih ih' =>
      obtain ⟨hfirst, hsecond⟩ := hapart
      obtain ⟨taken, htakes, hhold⟩ := ih hfirst
      obtain ⟨taken', htakes', hhold'⟩ := ih' hsecond
      exact ⟨_, .cat htakes htakes', hhold.behind hhold'⟩
  | altFirst _ ih =>
      obtain ⟨taken, htakes, hhold⟩ := ih hapart.1
      exact ⟨taken, .altFirst htakes, hhold⟩
  | altSecond _ ih =>
      obtain ⟨taken, htakes, hhold⟩ := ih hapart.2
      exact ⟨taken, .altSecond htakes, hhold⟩
  | loopDone => exact ⟨[], .loopDone, .nil _⟩
  | loopMore _ _ ih ih' =>
      obtain ⟨taken, htakes, hhold⟩ := ih hapart
      obtain ⟨taken', htakes', hhold'⟩ := ih' hapart
      exact ⟨_, .loopMore htakes htakes', hhold.behind hhold'⟩
  | plus _ _ ih ih' =>
      obtain ⟨taken, htakes, hhold⟩ := ih hapart
      obtain ⟨taken', htakes', hhold'⟩ := ih' hapart
      exact ⟨_, .plus htakes htakes', hhold.behind hhold'⟩

end Pattern

/-- What the group of a name holds, by the log of a match. -/
def Pattern.held? (p : Pattern) (log : List (Nat × List Char)) (name : String) :
    Option (List Char) :=
  (p.names.lookup name).bind fun index => log.lookup index

/-- What a search returns is a match of the pattern somewhere in the text, which is
group zero. Each group has the stretch that it took last. -/
theorem Pattern.takes_of_search? {p : Pattern} (hapart : (Core.group 0 p.core).Apart)
    {path : String} {captures : Captures} (h : p.search? path = some captures) :
    ∃ before text behind log, before.reverse ++ (text ++ behind) = path.toList ∧
      (Core.group 0 p.core).Takes before text behind log ∧
      (∀ index, captures.group? index = (log.lookup index).map String.ofList) ∧
      ∀ name, captures.named? name = (p.held? log name).map String.ofList := by
  obtain ⟨before, text, behind, inner, htext, hfills, rfl⟩ := p.fills_of_search? h
  obtain ⟨log, htakes, hhold⟩ := (Core.Fills.group hfills).exists_takes hapart
  rw [htext] at hhold
  have hgroups : ∀ index, Captures.group? ⟨path.toList, _, p.names⟩ index =
      (log.lookup index).map String.ofList := Slots.Hold.group? hhold
  refine ⟨before, text, behind, log, htext, htakes, hgroups, fun name => ?_⟩
  rw [Captures.named?, Pattern.held?]
  show (p.names.lookup name).bind _ = _
  cases p.names.lookup name with
  | none => rfl
  | some index => exact hgroups index

end Trialbook

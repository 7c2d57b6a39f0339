import Trialbook.Pattern.Core

/-!
# What patterns are made of

Sequences, choices and counted repetitions are put together from the patterns
they are given, and from nothing else (`Core.Made`). What holds of a pattern
through its parts is so proved once for all of them.

Two things about a match are settled here. It does not depend on the numbers of
the groups (`Core.Matches.of_unnumbered_eq`), and if the pattern looks at no
place it does not depend on what stands around it (`Core.Matches.elsewhere`).
-/

namespace Trialbook.Pattern.Core

/-! ## Patterns out of patterns -/

/-- What is put together from some patterns without further characters, groups
or conditions. -/
inductive Made (cores : List Core) : Core → Prop
  | empty : Made cores .empty
  | given {core : Core} (h : core ∈ cores) : Made cores core
  | cat {first second : Core} (h : Made cores first) (h' : Made cores second) :
      Made cores (.cat first second)
  | alt {first second : Core} (h : Made cores first) (h' : Made cores second) :
      Made cores (.alt first second)
  | loop {greedy : Bool} {body : Core} (h : Made cores body) : Made cores (.loop greedy body)
  | plus {greedy : Bool} {body : Core} (h : Made cores body) : Made cores (.plus greedy body)

namespace Made

variable {cores : List Core} {core body tail : Core} {greedy : Bool}

theorem mono {cores' : List Core} (h : Made cores core) (hsubset : ∀ c ∈ cores, c ∈ cores') :
    Made cores' core := by
  induction h with
  | empty => exact .empty
  | given h => exact .given (hsubset _ h)
  | cat _ _ ih ih' => exact .cat ih ih'
  | alt _ _ ih ih' => exact .alt ih ih'
  | loop _ ih => exact .loop ih
  | plus _ ih => exact .plus ih

theorem sequence (cores : List Core) : Made cores (sequence cores) := by
  induction cores using sequence.induct with
  | case1 => exact .empty
  | case2 core => exact .given (List.mem_singleton_self core)
  | case3 core rest hrest ih =>
      rw [Core.sequence.eq_3 core rest hrest]
      exact .cat (.given List.mem_cons_self) (ih.mono fun c => List.mem_cons_of_mem core)

theorem choice (cores : List Core) : Made cores (choice cores) := by
  induction cores using choice.induct with
  | case1 => exact .empty
  | case2 core => exact .given (List.mem_singleton_self core)
  | case3 core rest hrest ih =>
      rw [Core.choice.eq_3 core rest hrest]
      exact .alt (.given List.mem_cons_self) (ih.mono fun c => List.mem_cons_of_mem core)

theorem optional (h : Made cores body) : Made cores (optional greedy body) := by
  unfold Core.optional
  split
  · exact .alt h .empty
  · exact .alt .empty h

theorem zeroOrMore (h : Made cores body) : Made cores (zeroOrMore greedy body) := by
  unfold Core.zeroOrMore
  split
  · exact .loop h
  · exact h.plus.optional

theorem times (h : Made cores body) (htail : Made cores tail) (count : Nat) :
    Made cores (times body count tail) := by
  induction count with
  | zero => exact htail
  | succ count ih => exact .cat h ih

theorem exactly (h : Made cores body) (count : Nat) : Made cores (exactly body count) := by
  induction count using exactly.induct with
  | case1 => exact .empty
  | case2 => exact h
  | case3 count ih => exact .cat h ih

theorem upTo (h : Made cores body) (count : Nat) : Made cores (upTo greedy body count) := by
  induction count using upTo.induct with
  | case1 => exact .empty
  | case2 => exact h.optional
  | case3 count ih => exact (Made.cat h ih).optional

theorem repetition (least : Nat) (most : Option Nat) (greedy : Bool) (body : Core) :
    Made [body] (repetition least most greedy body) := by
  have h : Made [body] body := .given (List.mem_singleton_self body)
  unfold Core.repetition
  split
  split
  · split
    · exact h.zeroOrMore
    · exact h.plus
    · exact h.times h.plus _
  · split
    · exact h.exactly _
    · split
      · exact h.upTo _
      · exact h.times (h.upTo _) _

theorem mem_groups (h : Made cores core) {i : Nat} (hi : i ∈ core.groups) :
    i ∈ cores.flatMap groups := by
  induction h with
  | empty => simp [groups] at hi
  | given h => exact List.mem_flatMap.mpr ⟨_, h, hi⟩
  | cat _ _ ih ih' | alt _ _ ih ih' =>
      rcases List.mem_append.mp hi with hi | hi
      · exact ih hi
      · exact ih' hi
  | loop _ ih | plus _ ih => exact ih hi

end Made

theorem matches_cat_iff {first second : Core} {before text behind : List Char} :
    (cat first second).Matches before text behind ↔ ∃ u v, text = u ++ v ∧
      first.Matches before u (v ++ behind) ∧ second.Matches (u.reverse ++ before) v behind := by
  constructor
  · intro h
    cases h with
    | cat h h' => exact ⟨_, _, rfl, h, h'⟩
  · rintro ⟨u, v, rfl, h, h'⟩
    exact .cat h h'

/-! ## Places that are looked at -/

theorem holds_textStart {before : List Char} {next : Option Char} :
    Look.textStart.holds before.head? next = true ↔ before = [] := by
  cases before <;> simp [Look.holds]

theorem holds_textEnd {behind : List Char} {last : Option Char} :
    Look.textEnd.holds last behind.head? = true ↔ behind = [] := by
  cases behind <;> simp [Look.holds]

/-- Whether a pattern looks at no place. -/
def lookFree : Core → Bool
  | empty | set _ => true
  | look _ => false
  | group _ body => body.lookFree
  | cat first second => first.lookFree && second.lookFree
  | alt first second => first.lookFree && second.lookFree
  | loop _ body | plus _ body => body.lookFree

theorem Made.lookFree {cores : List Core} {core : Core} (h : Made cores core)
    (hcores : ∀ c ∈ cores, c.lookFree = true) : core.lookFree = true := by
  induction h with
  | empty => rfl
  | given h => exact hcores _ h
  | cat _ _ ih ih' | alt _ _ ih ih' => exact Bool.and_eq_true_iff.mpr ⟨ih, ih'⟩
  | loop _ ih | plus _ ih => exact ih

/-- Without conditions on places, what is matched in one place is matched in any. -/
theorem Matches.elsewhere {core : Core} {before text behind : List Char}
    (h : core.Matches before text behind) (hfree : core.lookFree = true)
    (before' behind' : List Char) : core.Matches before' text behind' := by
  induction h generalizing before' behind' with
  | empty => exact .empty
  | set h => exact .set h
  | look h => simp [lookFree] at hfree
  | group _ ih => exact .group (ih hfree _ _)
  | cat _ _ ih ih' =>
      obtain ⟨hfirst, hsecond⟩ := Bool.and_eq_true_iff.mp hfree
      exact .cat (ih hfirst _ _) (ih' hsecond _ _)
  | altFirst _ ih => exact .altFirst (ih (Bool.and_eq_true_iff.mp hfree).1 _ _)
  | altSecond _ ih => exact .altSecond (ih (Bool.and_eq_true_iff.mp hfree).2 _ _)
  | loopDone => exact .loopDone
  | loopMore _ _ ih ih' => exact .loopMore (ih hfree _ _) (ih' hfree _ _)
  | plus _ _ ih ih' => exact .plus (ih hfree _ _) (ih' hfree _ _)

/-! ## Numbers of groups -/

/-- The pattern with one number for all groups. -/
def unnumbered : Core → Core
  | empty => empty
  | set points => set points
  | look condition => look condition
  | group _ body => group 0 body.unnumbered
  | cat first second => cat first.unnumbered second.unnumbered
  | alt first second => alt first.unnumbered second.unnumbered
  | loop greedy body => loop greedy body.unnumbered
  | plus greedy body => plus greedy body.unnumbered

/-- Patterns that differ in the numbers of groups match the same. -/
theorem Matches.of_unnumbered_eq {core core' : Core} {before text behind : List Char}
    (h : core.Matches before text behind) (heq : core.unnumbered = core'.unnumbered) :
    core'.Matches before text behind := by
  induction h generalizing core' with
  | empty =>
      cases core' <;> cases heq
      exact .empty
  | set h =>
      cases core' <;> cases heq
      exact .set h
  | look h =>
      cases core' <;> cases heq
      exact .look h
  | group _ ih =>
      cases core' with
      | group => exact .group (ih (Core.group.inj heq).2)
      | _ => cases heq
  | cat _ _ ih ih' =>
      cases core' with
      | cat => exact .cat (ih (Core.cat.inj heq).1) (ih' (Core.cat.inj heq).2)
      | _ => cases heq
  | altFirst _ ih =>
      cases core' with
      | alt => exact .altFirst (ih (Core.alt.inj heq).1)
      | _ => cases heq
  | altSecond _ ih =>
      cases core' with
      | alt => exact .altSecond (ih (Core.alt.inj heq).2)
      | _ => cases heq
  | loopDone =>
      cases core' with
      | loop => exact .loopDone
      | _ => cases heq
  | loopMore _ _ ih ih' =>
      cases core' with
      | loop => exact .loopMore (ih (Core.loop.inj heq).2) (ih' heq)
      | _ => cases heq
  | plus _ _ ih ih' =>
      cases core' with
      | plus greedy' body' =>
          obtain ⟨rfl, hbody⟩ := Core.plus.inj heq
          exact .plus (ih hbody) (ih' (congrArg (loop _) hbody))
      | _ => cases heq

@[simp] theorem consumes_unnumbered (core : Core) : core.unnumbered.consumes = core.consumes := by
  induction core <;> simp_all [unnumbered, consumes]

@[simp] theorem takesNothing_unnumbered (core : Core) :
    core.unnumbered.takesNothing = core.takesNothing := by
  induction core <;> simp_all [unnumbered, takesNothing]

section

variable (greedy : Bool) (body tail : Core)

theorem unnumbered_optional :
    (optional greedy body).unnumbered = optional greedy body.unnumbered := by
  cases greedy <;> rfl

theorem unnumbered_zeroOrMore :
    (zeroOrMore greedy body).unnumbered = zeroOrMore greedy body.unnumbered := by
  simp only [zeroOrMore, consumes_unnumbered]
  split
  · rfl
  · exact unnumbered_optional greedy (plus greedy body)

theorem unnumbered_times (count : Nat) :
    (times body count tail).unnumbered = times body.unnumbered count tail.unnumbered := by
  induction count with
  | zero => rfl
  | succ count ih => rw [times, times, unnumbered, ih]

theorem unnumbered_exactly (count : Nat) :
    (exactly body count).unnumbered = exactly body.unnumbered count := by
  induction count using exactly.induct with
  | case1 => rfl
  | case2 => rfl
  | case3 count ih => rw [exactly, exactly, unnumbered, ih]

theorem unnumbered_upTo (count : Nat) :
    (upTo greedy body count).unnumbered = upTo greedy body.unnumbered count := by
  induction count using upTo.induct with
  | case1 => rfl
  | case2 => exact unnumbered_optional greedy body
  | case3 count ih => rw [upTo, upTo, unnumbered_optional, unnumbered, ih]

theorem unnumbered_repetition (least : Nat) (most : Option Nat) :
    (repetition least most greedy body).unnumbered =
      repetition least most greedy body.unnumbered := by
  unfold repetition
  rw [takesNothing_unnumbered]
  generalize (if body.takesNothing then _ else (least, most)) = bounds
  obtain ⟨least, most⟩ := bounds
  cases most with
  | none =>
      match least with
      | 0 => exact unnumbered_zeroOrMore greedy body
      | 1 => rfl
      | least + 2 => exact unnumbered_times body (plus greedy body) (least + 1)
  | some most =>
      dsimp only
      split
      · exact unnumbered_exactly body least
      · split
        · exact unnumbered_upTo greedy body most
        · rw [unnumbered_times, unnumbered_upTo]

end

theorem unnumbered_sequence (cores : List Core) :
    (sequence cores).unnumbered = sequence (cores.map unnumbered) := by
  induction cores using sequence.induct with
  | case1 => rfl
  | case2 core => rfl
  | case3 core rest hrest ih =>
      rw [sequence.eq_3 core rest hrest, unnumbered, ih, List.map_cons, sequence.eq_3]
      simpa using hrest

theorem unnumbered_choice (cores : List Core) :
    (choice cores).unnumbered = choice (cores.map unnumbered) := by
  induction cores using choice.induct with
  | case1 => rfl
  | case2 core => rfl
  | case3 core rest hrest ih =>
      rw [choice.eq_3 core rest hrest, unnumbered, ih, List.map_cons, choice.eq_3]
      simpa using hrest

end Trialbook.Pattern.Core

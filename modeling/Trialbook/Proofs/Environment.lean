import Trialbook.Proofs.Dictionaries
import Trialbook.Proofs.Identifiers
import Trialbook.Proofs.Preambles

/-!
# The environment of a run

A run is told the values of its axes twice. The job lists them under the names of the axes,
and its line begins with assignments to variables that have the names of the axes in upper
case. Names that differ may be the same in upper case, and then axes share a variable. All
of them assign to it, from left to right, and what it holds in the end is the value of the
last of them (`Job.expandEntry_environment`).

So the two agree about an axis as long as the last axis with its variable has its value. For
a whole run that is a condition on pairs of axes: those that share a variable have one value.
It speaks of values and not of names, since of the runs of one entry some may meet it where
others do not.

An assignment is more than its text, in which a name with an equals sign or a value with a
blank is cut elsewhere. `Assignment.ofLine` reads a line as text, and finds the assignments
of a run again where there is neither.
-/

namespace Trialbook

open Text (Dictionary)

/-- The name of the variable that an axis assigns its value to. -/
def Axis.variableName (axis : Axis) : String := Unicode.toUpper axis.name

/-- A value for a variable. -/
structure Assignment where
  name : String
  value : String
  deriving DecidableEq

namespace Assignment

/-- An assignment as a word of a line. -/
def text (a : Assignment) : String := a.name ++ "=" ++ a.value

/-! ## What a variable holds -/

/-- What a variable holds after some assignments, made from left to right. -/
def held (assignments : List Assignment) (name : String) : Option String :=
  assignments.foldl (fun value a => if a.name = name then some a.value else value) none

theorem held_concat (assignments : List Assignment) (a : Assignment) (name : String) :
    held (assignments ++ [a]) name =
      if a.name = name then some a.value else held assignments name := by
  rw [held, List.foldl_append]
  rfl

theorem held_append_of_ne {before after : List Assignment} {name : String}
    (h : ∀ a ∈ after, a.name ≠ name) : held (before ++ after) name = held before name := by
  induction after generalizing before with
  | nil => rw [List.append_nil]
  | cons a after ih =>
      have hothers := fun b hb => h b (List.mem_cons_of_mem a hb)
      rw [List.append_cons, ih hothers, held_concat, if_neg (h a List.mem_cons_self)]

/-- The last assignment to a variable counts. -/
theorem held_of_last {before after : List Assignment} {a : Assignment}
    (h : ∀ b ∈ after, b.name ≠ a.name) : held (before ++ a :: after) a.name = some a.value := by
  rw [List.append_cons, held_append_of_ne h, held_concat, if_pos rfl]

/-! ## Assignments read from a line -/

/-- The assignment that a word is: a name up to the first equals sign, a value behind it. -/
def ofWord? (word : List Char) : Option Assignment :=
  match word.dropWhile (· ≠ '=') with
  | [] => none
  | _ :: value => some ⟨String.ofList (word.takeWhile (· ≠ '=')), String.ofList value⟩

/-- The assignments that some words begin with. -/
def ofWords : List (List Char) → List Assignment
  | [] => []
  | word :: words =>
    match ofWord? word with
    | none => []
    | some a => a :: ofWords words

/-- The assignments that a line begins with. Its words are what stands between blanks. -/
def ofLine (line : String) : List Assignment := ofWords (line.toList.splitOn ' ')

/-- The text of the assignment is one word, and the name in it ends where it should. -/
structure Legible (a : Assignment) : Prop where
  name_closed : '=' ∉ a.name.toList
  name_unbroken : ' ' ∉ a.name.toList
  value_unbroken : ' ' ∉ a.value.toList

theorem toList_text (a : Assignment) : a.text.toList = a.name.toList ++ '=' :: a.value.toList := by
  simp [text]

theorem text_ne_empty (a : Assignment) : a.text ≠ "" := by
  simp [text]

namespace Legible

variable {a : Assignment}

theorem ofWord?_text (h : a.Legible) : ofWord? a.text.toList = some a := by
  have hname : ∀ c ∈ a.name.toList, decide (c ≠ '=') = true := fun c hc =>
    decide_eq_true fun heq => h.name_closed (heq ▸ hc)
  rw [ofWord?, toList_text, List.dropWhile_append_of_pos hname, List.takeWhile_append_of_pos hname]
  simp

theorem not_mem_text (h : a.Legible) : ' ' ∉ a.text.toList := by
  rw [toList_text]
  simp [h.name_unbroken, h.value_unbroken]

theorem not_blank (h : a.Legible) : ∀ c ∈ a.text.toList, (c == ' ') = false := fun _ hc =>
  beq_false_of_ne fun heq => h.not_mem_text (heq ▸ hc)

theorem ofLine_text (h : a.Legible) : ofLine a.text = [a] := by
  rw [ofLine, List.splitOn_eq_splitOnP, List.splitOnP_eq_singleton h.not_blank, ofWords,
    h.ofWord?_text]
  rfl

theorem ofLine_text_append (h : a.Legible) (line : String) :
    ofLine (a.text ++ (" " ++ line)) = a :: ofLine line := by
  have hsplit : (a.text ++ (" " ++ line)).toList.splitOn ' ' =
      a.text.toList :: line.toList.splitOn ' ' := by
    rw [String.toList_append, String.toList_append, List.splitOn_eq_splitOnP]
    exact List.splitOnP_append_cons_of_forall_mem h.not_blank ' ' (beq_self_eq_true ' ') line.toList
  rw [ofLine, hsplit, ofWords, h.ofWord?_text]
  rfl

end Legible

end Assignment

/-! ## The assignments of the axes -/

section

variable {values : Dictionary} {axes : List Axis} {assignments : List Assignment}

/-- The assignment is that of the axis: it gives the variable of the axis the value that is
listed under the axis. -/
structure Assignment.Assigns (values : Dictionary) (a : Assignment) (axis : Axis) : Prop where
  name : a.name = axis.variableName
  value : values.get? axis.name = some a.value

/-- The last of some axes that has the variable of the given name. -/
def Axis.IsLastWith (axes : List Axis) (name : String) (axis : Axis) : Prop :=
  axis.variableName = name ∧
    ∃ before after, axes = before ++ axis :: after ∧ ∀ other ∈ after, other.variableName ≠ name

theorem Axis.exists_isLastWith {name : String} (h : ∃ axis ∈ axes, axis.variableName = name) :
    ∃ last, IsLastWith axes name last := by
  induction axes with
  | nil => simp at h
  | cons first rest ih =>
      by_cases hrest : ∃ axis ∈ rest, axis.variableName = name
      · obtain ⟨last, hname, before, after, rfl, hafter⟩ := ih hrest
        exact ⟨last, hname, first :: before, after, rfl, hafter⟩
      · obtain ⟨axis, hmem, hname⟩ := h
        rcases List.mem_cons.mp hmem with rfl | hmem
        · exact ⟨axis, hname, [], rest, rfl, fun other hother heq => hrest ⟨other, hother, heq⟩⟩
        · exact absurd ⟨axis, hmem, hname⟩ hrest

theorem Axis.IsLastWith.mem {name : String} {last : Axis} (h : last.IsLastWith axes name) :
    last ∈ axes := by
  obtain ⟨-, before, after, rfl, -⟩ := h
  simp

namespace Assignment

theorem map_name_of_assigns (h : List.Forall₂ (Assigns values) assignments axes) :
    assignments.map name = axes.map Axis.variableName := by
  rw [← List.forall₂_eq_eq_eq, List.forall₂_map_left_iff, List.forall₂_map_right_iff]
  exact h.imp fun _ _ hassigns => hassigns.name

/-- A variable holds the value of the last axis that has it. -/
theorem held_of_isLastWith (h : List.Forall₂ (Assigns values) assignments axes) {name : String}
    {last : Axis} (hlast : last.IsLastWith axes name) :
    held assignments name = values.get? last.name := by
  obtain ⟨rfl, before, after, rfl, hafter⟩ := hlast
  obtain ⟨a, others, ha, hothers, hdrop⟩ :=
    List.forall₂_cons_right_iff.mp (List.forall₂_drop_append _ _ _ h)
  have hlater : ∀ b ∈ others, b.name ≠ a.name := by
    intro b hb heq
    have hmem : b.name ∈ after.map Axis.variableName := by
      rw [← map_name_of_assigns hothers]
      exact List.mem_map_of_mem hb
    obtain ⟨other, hother, hsame⟩ := List.mem_map.mp hmem
    exact hafter other hother (hsame.trans (heq.trans ha.name))
  rw [← List.take_append_drop before.length assignments, hdrop, ← ha.name, held_of_last hlater,
    ha.value]

/-- The variables of all axes hold the values of these just when axes that share one have one
value. -/
theorem held_iff_shared (h : List.Forall₂ (Assigns values) assignments axes) :
    (∀ axis ∈ axes, held assignments axis.variableName = values.get? axis.name) ↔
      ∀ axis ∈ axes, ∀ other ∈ axes, axis.variableName = other.variableName →
        values.get? axis.name = values.get? other.name := by
  constructor
  · intro hheld axis haxis other hother hshared
    rw [← hheld axis haxis, ← hheld other hother, hshared]
  · intro hshared axis haxis
    obtain ⟨last, hlast⟩ := Axis.exists_isLastWith ⟨axis, haxis, rfl⟩
    rw [held_of_isLastWith h hlast]
    exact hshared last hlast.mem axis haxis hlast.1

end Assignment

end

namespace Job

open Assignment (held)

/-- The assignments that a line begins with are found in its text again. -/
theorem ofLine_joinWords {assignments : List Assignment} (h : ∀ a ∈ assignments, a.Legible)
    (others : List String) :
    Assignment.ofLine (joinWords (assignments.map Assignment.text ++ others)) =
      assignments ++ Assignment.ofLine (joinWords others) := by
  induction assignments with
  | nil => rfl
  | cons a assignments ih =>
      have hown := h a List.mem_cons_self
      have hothers := ih fun b hb => h b (List.mem_cons_of_mem a hb)
      rw [List.map_cons, List.cons_append, joinWords_cons, if_neg a.text_ne_empty]
      split
      · next hempty =>
          rw [hempty] at hothers
          rw [hown.ofLine_text, List.cons_append, ← hothers]
          rfl
      · rw [String.append_assoc, hown.ofLine_text_append, hothers, List.cons_append]

/-- The assignments of a combination. -/
def assignmentsOf (combination : Combination) : List Assignment :=
  combination.map fun c => ⟨Unicode.toUpper c.1, c.2⟩

theorem environment_eq (combination : Combination) :
    environment combination = joinWords ((assignmentsOf combination).map Assignment.text) := by
  have hwords : ∀ word ∈ (assignmentsOf combination).map Assignment.text,
      (!word.isEmpty) = true := by
    intro word hword
    obtain ⟨a, -, rfl⟩ := List.mem_map.mp hword
    simpa using a.text_ne_empty
  rw [joinWords, List.filter_eq_self.mpr hwords, assignmentsOf, List.map_map]
  rfl

theorem map_fst_of_mem_combinations {axes : List Axis} {combination : Combination}
    (h : combination ∈ combinations axes) : combination.map Prod.fst = axes.map Axis.name := by
  induction axes generalizing combination with
  | nil =>
      obtain rfl := List.mem_singleton.mp h
      rfl
  | cons axis rest ih =>
      obtain ⟨value, -, hmem⟩ := List.mem_flatMap.mp h
      obtain ⟨others, hothers, rfl⟩ := List.mem_map.mp hmem
      rw [List.map_cons, List.map_cons, ih hothers]

/-- A combination assigns a value of its own to each axis, in their order. -/
theorem forall₂_assigns {axes : List Axis} {combination : Combination}
    (hmem : combination ∈ combinations axes) (hnames : (axes.map Axis.name).Nodup) :
    List.Forall₂ (Assignment.Assigns (.ofList combination)) (assignmentsOf combination) axes := by
  have hkeys := map_fst_of_mem_combinations hmem
  have hvalues : ∀ c ∈ combination, (Dictionary.ofList combination).get? c.1 = some c.2 :=
    fun c hc => (Dictionary.holds_ofList (hkeys ▸ hnames)).get?_of_mem hc
  rw [← List.forall₂_eq_eq_eq, List.forall₂_map_left_iff, List.forall₂_map_right_iff] at hkeys
  rw [assignmentsOf, List.forall₂_map_left_iff]
  refine ((List.forall₂_and_left _ _).mpr ⟨hvalues, hkeys⟩).imp fun c axis h => ?_
  obtain ⟨hvalue, hname⟩ := h
  exact ⟨congrArg Unicode.toUpper hname, hname ▸ hvalue⟩

/-! ## The runs of an entry -/

variable {suite name : String} {entry : TestEntry} {compiler : Compiler} {options : ExpandOptions}

/-- The line of a run begins with an assignment for each axis, in their order, of the value
that the job lists under the axis to the variable that has its name in upper case. Made from
left to right, they leave in the variable of an axis the value of the last axis that has this
variable. So the variables of all axes hold the values of these just when axes that share a
variable have one value. Reading the line as text finds the assignments again if each is one
word, with those behind them that the program's own text begins with. -/
theorem expandEntry_environment {jobs : List Job}
    (h : expandEntry suite name entry compiler options = .ok jobs)
    (hnames : (entry.axes.map Axis.name).Nodup) :
    ∀ job ∈ jobs, job.kind = .run → ∃ spec packages assignments arguments,
      entry.run = some spec ∧ entry.Needs suite packages ∧
      arguments = [spec.program.getD ("./" ++ entry.binary.getD name), spec.args.getD ""] ∧
      job.command = script (packages.flatMap Directive.commands)
        (joinWords (assignments.map Assignment.text ++ arguments)) ∧
      List.Forall₂ (Assignment.Assigns job.axes) assignments entry.axes ∧
      (∀ axis ∈ entry.axes, ∃ last, Axis.IsLastWith entry.axes axis.variableName last ∧
        held assignments axis.variableName = job.axes.get? last.name) ∧
      ((∀ axis ∈ entry.axes, held assignments axis.variableName = job.axes.get? axis.name) ↔
        ∀ axis ∈ entry.axes, ∀ other ∈ entry.axes, axis.variableName = other.variableName →
          job.axes.get? axis.name = job.axes.get? other.name) ∧
      ((∀ a ∈ assignments, a.Legible) →
        Assignment.ofLine (joinWords (assignments.map Assignment.text ++ arguments)) =
          assignments ++ Assignment.ofLine (joinWords arguments)) := by
  intro job hjob hkind
  obtain ⟨dependencies, own, builds, hdependencies, hown, hbuilds, rfl⟩ :=
    expandEntry_eq_ok_iff.mp h
  obtain ⟨line, hline, hcommand⟩ := Setting.exists_line hbuilds job hjob
  cases hline with
  | compile hbuild => exact absurd (hbuild.symm.trans hkind) (by simp)
  | @run spec combination _ hrun hmem haxes =>
      rw [withPreamble_preambleOf, environment_eq, joinWords_joinWords_cons] at hcommand
      have hdeclared : entry.axes = spec.axes := by rw [TestEntry.axes, hrun]
      rw [← hdeclared] at hmem
      have hassigns := forall₂_assigns hmem hnames
      rw [← haxes] at hassigns
      refine ⟨spec, _, assignmentsOf combination, _, hrun, TestEntry.needs_of_ok hown hdependencies,
        rfl, hcommand, hassigns, fun axis haxis => ?_, Assignment.held_iff_shared hassigns,
        fun hlegible => ofLine_joinWords hlegible _⟩
      obtain ⟨last, hlast⟩ := Axis.exists_isLastWith ⟨axis, haxis, rfl⟩
      exact ⟨last, hlast, Assignment.held_of_isLastWith hassigns hlast⟩

/-- Two axes share a variable. They have one value in the second run and two in the first. -/
theorem expandEntry_environment_shared :
    let axes : List Axis := [⟨"n", ["1", "2"]⟩, ⟨"N", ["2"]⟩]
    let entry : TestEntry := { run := some { axes } }
    (entry.axes.map Axis.name).Nodup ∧ ∃ first second,
      expandEntry "ns" "a" entry {} {} = .ok [first, second] ∧
      (∃ assignments, List.Forall₂ (Assignment.Assigns first.axes) assignments axes ∧
        ¬ ∀ axis ∈ axes, held assignments axis.variableName = first.axes.get? axis.name) ∧
      ∃ assignments, List.Forall₂ (Assignment.Assigns second.axes) assignments axes ∧
        ∀ axis ∈ axes, held assignments axis.variableName = second.axes.get? axis.name := by
  intro axes entry
  have hnames : (entry.axes.map Axis.name).Nodup := by decide
  obtain ⟨first, second, hjobs, hkind, hkind', hvalues, hvalues'⟩ : ∃ first second,
      expandEntry "ns" "a" entry {} {} = .ok [first, second] ∧ first.kind = .run ∧
        second.kind = .run ∧ first.axes = ⟨[("N", "2"), ("n", "1")]⟩ ∧
        second.axes = ⟨[("N", "2"), ("n", "2")]⟩ := ⟨_, _, rfl, rfl, rfl, rfl, rfl⟩
  have hruns := expandEntry_environment hjobs hnames
  refine ⟨hnames, first, second, hjobs, ?_, ?_⟩
  · obtain ⟨-, -, assignments, -, -, -, -, -, hassigns, -, hexact, -⟩ :=
      hruns first List.mem_cons_self hkind
    refine ⟨assignments, hassigns, fun hheld => ?_⟩
    have hvalue := hexact.mp hheld ⟨"n", ["1", "2"]⟩ List.mem_cons_self ⟨"N", ["2"]⟩
      (List.mem_cons_of_mem _ List.mem_cons_self) (by decide)
    rw [hvalues] at hvalue
    exact absurd hvalue (by decide)
  · obtain ⟨-, -, assignments, -, -, -, -, -, hassigns, -, hexact, -⟩ :=
      hruns second (List.mem_cons_of_mem _ List.mem_cons_self) hkind'
    refine ⟨assignments, hassigns, hexact.mpr ?_⟩
    rw [hvalues']
    decide

/-- The run assigns to one variable twice, and the job lists a value that the second assignment
replaces. -/
theorem environment_overtaken :
    let axes : List Axis := [⟨"n", ["1"]⟩, ⟨"N", ["2"]⟩]
    let job : Job := ⟨"ns/a_n1_N2", .run, "N=1 N=2 ./a", [], ⟨[("N", "2"), ("n", "1")]⟩⟩
    expandEntry "ns" "a" { run := some { axes } } {} {} = .ok [job] ∧
      (axes.map Axis.name).Nodup ∧ ⟨"n", ["1"]⟩ ∈ axes ∧ Axis.variableName ⟨"n", ["1"]⟩ = "N" ∧
      Assignment.ofLine job.command = [⟨"N", "1"⟩, ⟨"N", "2"⟩] ∧
      held (Assignment.ofLine job.command) "N" = some "2" ∧ job.axes.get? "n" = some "1" := by
  intro axes job
  exact ⟨rfl, by decide, List.mem_cons_self, by decide, by decide, by decide, by decide⟩

end Job

end Trialbook

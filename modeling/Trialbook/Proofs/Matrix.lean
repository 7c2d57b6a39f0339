import Trialbook.Proofs.Dictionaries
import Trialbook.Proofs.Expansion
import Mathlib.Algebra.BigOperators.Group.List.Basic

/-!
# The jobs of an entry are a matrix

An entry that runs has one run job for each way to pick a value on every axis. The order
of the runs is that of the places of the picked values, lexicographically, so that the
first axis varies slowest. Everything else in an expansion is one build job or none.

The order is best told by places and not by values: an axis may list a value twice, and
then there are two runs. `Job.picks` lists the places and `Job.choose` takes the values
there, and the combinations of an expansion are the second applied to the first.
-/

namespace Trialbook

namespace Job

/-! ## Places on the axes -/

/-- A place on each axis, in every way there is, the first axis varying slowest. -/
def picks : List Axis → List (List Nat)
  | [] => [[]]
  | axis :: rest =>
    (List.range axis.values.length).flatMap fun i => (picks rest).map (i :: ·)

/-- The values at places on the axes. -/
def choose (axes : List Axis) (pick : List Nat) : Combination :=
  axes.zipWith (fun axis i => (axis.name, axis.values.getD i "")) pick

theorem mem_picks {axes : List Axis} {pick : List Nat} :
    pick ∈ picks axes ↔ List.Forall₂ (fun i axis => i < axis.values.length) pick axes := by
  induction axes generalizing pick with
  | nil => simp [picks]
  | cons axis rest ih =>
      rw [picks, List.mem_flatMap]
      constructor
      · intro h
        obtain ⟨i, hi, hpick⟩ := h
        obtain ⟨others, hothers, rfl⟩ := List.mem_map.mp hpick
        exact .cons (List.mem_range.mp hi) (ih.mp hothers)
      · intro h
        cases h with
        | cons hi hothers =>
            exact ⟨_, List.mem_range.mpr hi, List.mem_map_of_mem (ih.mpr hothers)⟩

/-- The places come in lexicographic order, each once. -/
theorem pairwise_picks (axes : List Axis) : (picks axes).Pairwise (· < ·) := by
  induction axes with
  | nil => exact List.pairwise_singleton _ _
  | cons axis rest ih =>
      -- within a block the first place is one and the same, from block to block it grows
      rw [picks, List.pairwise_flatMap]
      refine ⟨fun i _ => ?_, List.pairwise_lt_range.imp fun hij => ?_⟩
      · rw [List.pairwise_map]
        exact ih.imp fun hlt => List.cons_lt_cons_iff.mpr (Or.inr ⟨rfl, hlt⟩)
      · intro pick hpick pick' hpick'
        obtain ⟨others, -, rfl⟩ := List.mem_map.mp hpick
        obtain ⟨others', -, rfl⟩ := List.mem_map.mp hpick'
        exact List.cons_lt_cons_iff.mpr (Or.inl hij)

theorem map_getD_range (values : List String) :
    (List.range values.length).map (fun i => values.getD i "") = values := by
  refine List.ext_getElem (by simp) fun i _ hi => ?_
  simp [hi]

theorem combinations_eq (axes : List Axis) :
    combinations axes = (picks axes).map (choose axes) := by
  induction axes with
  | nil => rfl
  | cons axis rest ih =>
      have hvalues : combinations (axis :: rest) =
          ((List.range axis.values.length).map fun i => axis.values.getD i "").flatMap fun value =>
            (combinations rest).map ((axis.name, value) :: ·) := by
        rw [map_getD_range, combinations]
      rw [hvalues, List.flatMap_map, picks, List.map_flatMap]
      refine List.flatMap_congr fun i _ => ?_
      rw [ih, List.map_map, List.map_map]
      rfl

theorem length_combinations (axes : List Axis) :
    (combinations axes).length = (axes.map fun axis => axis.values.length).prod := by
  induction axes with
  | nil => rfl
  | cons axis rest ih =>
      rw [combinations, List.length_flatMap, List.map_cons, List.prod_cons, ← ih]
      simp

theorem map_fst_choose_sublist (axes : List Axis) (pick : List Nat) :
    ((choose axes pick).map Prod.fst).Sublist (axes.map Axis.name) := by
  induction axes generalizing pick with
  | nil => exact List.nil_sublist _
  | cons axis rest ih =>
      cases pick with
      | nil => exact List.nil_sublist _
      | cons i others => exact (ih others).cons_cons axis.name

/-! ## The runs -/

/-- A run of the values at some places on the axes: its name tells them behind the name of
the entry, it waits for the given jobs, and if the axes have names of their own it holds
the values under these. -/
structure IsRunOf (name : String) (axes : List Axis) (awaited : List String) (pick : List Nat)
    (job : Job) : Prop where
  kind : job.kind = .run
  named : job.id = name ++ String.join ((choose axes pick).map fun c => "_" ++ c.1 ++ c.2)
  awaits : job.dependsOn = awaited
  holds : (axes.map Axis.name).Nodup → job.axes.Holds (choose axes pick)

theorem Setting.runs_eq_nil {s : Setting} (h : s.entry.run = none) : s.runs = [] := by
  rw [Setting.runs, h]

theorem Setting.isRunOf_run (s : Setting) (spec : RunSpec) (pick : List Nat) :
    IsRunOf s.id spec.axes (s.builds ++ s.tests) pick (s.run spec (choose spec.axes pick)) where
  kind := rfl
  named := rfl
  awaits := rfl
  holds hnames := Text.Dictionary.holds_ofList ((map_fst_choose_sublist _ _).nodup hnames)

theorem Setting.forall₂_isRunOf (s : Setting) {spec : RunSpec} (h : s.entry.run = some spec) :
    List.Forall₂ (IsRunOf s.id spec.axes (s.builds ++ s.tests)) (picks spec.axes) s.runs := by
  rw [Setting.runs, h]
  show List.Forall₂ _ _ ((combinations spec.axes).map (s.run spec))
  rw [combinations_eq, List.map_map, List.forall₂_map_right_iff, List.forall₂_same]
  exact fun pick _ => s.isRunOf_run spec pick

/-! ## The entry -/

variable {suite name : String} {entry : TestEntry} {compiler : Compiler} {options : ExpandOptions}

/-- An entry that expands has one build job if there are files, and none otherwise. It
waits for the entries that the entry depends on. Behind it is one run for each pick of
places on the axes, in lexicographic order, if the entry runs. The runs wait for the build
job, if there is one, and for the same entries. There are as many of them as the product
of the numbers of values says. -/
theorem expandEntry_matrix {jobs : List Job}
    (h : expandEntry suite name entry compiler options = .ok jobs) :
    ∃ dependencies builds runs,
      Dependency.resolve suite (entry.dependencies.getD .null) options.dependencies =
        .ok dependencies ∧
      jobs = builds ++ runs ∧
      (entry.files = [] → builds = []) ∧
      (entry.files ≠ [] → ∃ build language, builds = [build] ∧ build.kind = .build language ∧
        build.id = Dependency.qualify suite name ++ (if entry.run.isSome then ".build" else "") ∧
        build.dependsOn = dependencies.filterMap Dependency.testId? ∧ build.axes = {}) ∧
      (entry.run = none → runs = []) ∧
      ∀ spec, entry.run = some spec →
        runs.length = (spec.axes.map fun axis => axis.values.length).prod ∧
        ∃ places : List (List Nat),
          (∀ pick, pick ∈ places ↔
            List.Forall₂ (fun i axis => i < axis.values.length) pick spec.axes) ∧
          places.Pairwise (· < ·) ∧
          List.Forall₂ (IsRunOf (Dependency.qualify suite name) spec.axes
            (builds.map Job.id ++ dependencies.filterMap Dependency.testId?)) places runs := by
  obtain ⟨dependencies, packages, builds, hdependencies, -, hbuilds, rfl⟩ :=
    expandEntry_eq_ok_iff.mp h
  refine ⟨dependencies, builds, _, hdependencies, rfl, ?_, ?_, ?_, ?_⟩
  · intro hfiles
    rcases Setting.buildJobs_cases hbuilds with ⟨-, rfl⟩ | ⟨hne, -⟩
    · rfl
    · exact absurd hfiles hne
  · intro hfiles
    rcases Setting.buildJobs_cases hbuilds with ⟨hnil, -⟩ | ⟨-, language, program, flags, rfl⟩
    · exact absurd hnil hfiles
    · exact ⟨_, language, rfl, rfl, Setting.buildId_eq _, rfl, rfl⟩
  · exact fun hrun => Setting.runs_eq_nil hrun
  · intro spec hrun
    have hruns := Setting.forall₂_isRunOf
      (Setting.ofEntry suite name entry dependencies packages) hrun
    rw [← Setting.map_id_of_buildJobs hbuilds] at hruns
    refine ⟨?_, picks spec.axes, fun pick => mem_picks, pairwise_picks spec.axes, hruns⟩
    rw [← hruns.length_eq, ← length_combinations, combinations_eq, List.length_map]

/-- Two axes, the second of which lists one of its values twice, and an entry to wait for. -/
theorem expandEntry_matrix_repeated :
    let axes : List Axis := [⟨"n", ["1", "2"]⟩, ⟨"m", ["x", "y", "x"]⟩]
    let entry : TestEntry := {
      files := ["a.c"]
      dependencies := some (.mapping [(.text "test", .text "b")])
      run := some { axes } }
    ∃ build runs, expandEntry "ns" "a" entry {} {} = .ok (build :: runs) ∧
      build.id = "ns/a.build" ∧ build.dependsOn = ["ns/b"] ∧ runs.length = 6 ∧
      ∃ places : List (List Nat), [1, 2] ∈ places ∧ places.Pairwise (· < ·) ∧
        List.Forall₂ (IsRunOf "ns/a" axes ["ns/a.build", "ns/b"]) places runs := by
  intro axes entry
  obtain ⟨jobs, hjobs⟩ : ∃ jobs, expandEntry "ns" "a" entry {} {} = .ok jobs := ⟨_, rfl⟩
  obtain ⟨dependencies, builds, runs, hdependencies, rfl, -, hbuilds, -, hruns⟩ :=
    expandEntry_matrix hjobs
  obtain ⟨build, language, rfl, -, hid, hdependsOn, -⟩ := hbuilds (List.cons_ne_nil _ _)
  obtain ⟨hlength, places, hplaces, hordered, hmatrix⟩ := hruns _ rfl
  obtain rfl : dependencies = [.test "ns/b"] := (Except.ok.inj hdependencies).symm
  have hid : build.id = "ns/a.build" := hid
  rw [List.map_singleton, hid] at hmatrix
  have hplace : [1, 2] ∈ places :=
    (hplaces [1, 2]).mpr (.cons (by decide) (.cons (by decide) .nil))
  exact ⟨build, runs, hjobs, hid, hdependsOn, hlength, places, hplace, hordered, hmatrix⟩

end Job

end Trialbook

import Trialbook.Proofs.Expansion
import Trialbook.Proofs.Needs

/-!
# The commands before a job

The jobs of an entry all begin with the commands for its packages, one a line, and what
stands behind them is the line of the job alone. Which packages these are is told from the
entry (`TestEntry.Needs`): those it declares for itself, manager by manager, and then those
among its dependencies, key by key. Which commands a package takes is told by its manager
(`Directive.commands`).

The text of a job is put together in two steps, the commands of each package first and the
lines of all packages then. `Job.withPreamble_preambleOf` joins the two into one list of
commands with an end of line behind each (`Job.script`), so that nothing depends on where
one package ends and the next one begins.
-/

namespace Trialbook

open Node

/-- The commands of a package. Only one of the managers installs before it loads. -/
def Directive.commands (d : Directive) : List String :=
  match d.manager with
  | .spack => ["spack install " ++ d.spec, "spack load " ++ d.spec]
  | .module => ["module load " ++ d.spec]

namespace TestEntry

/-- The packages that an entry declares for itself: all of one manager, then all of the
other, each in the order of its list. -/
inductive OwnPackages (entry : TestEntry) : List Directive → Prop
  | none (h : entry.packages = none ∨ entry.packages = some null) : OwnPackages entry []
  | listed {es : Entries} {spacks modules : List String} (h : entry.packages = some (mapping es))
      (hspacks : es.ListsUnder "spack" spacks) (hmodules : es.ListsUnder "module" modules) :
      OwnPackages entry (spacks.map (fun spec => ⟨.spack, spec⟩) ++
        modules.map fun spec => ⟨.module, spec⟩)

/-- What an entry depends on. -/
inductive Dependencies (suite : String) (entry : TestEntry) : List Dependency → Prop
  | none (h : entry.dependencies = none ∨ entry.dependencies = some null) :
      Dependencies suite entry []
  | listed {es : Entries} {found : List Dependency} (h : entry.dependencies = some (mapping es))
      (hfound : Dependency.Declares suite es found) : Dependencies suite entry found

/-- The packages that the jobs of an entry need, in their order: the entry's own, and
behind them those among its dependencies. -/
def Needs (suite : String) (entry : TestEntry) (packages : List Directive) : Prop :=
  ∃ own found, entry.OwnPackages own ∧ entry.Dependencies suite found ∧
    packages = own ++ found.filterMap Dependency.directive?

variable {suite : String} {entry : TestEntry}

theorem ownPackages_eq_ok_iff {own : List Directive} :
    Job.ownPackages entry = .ok own ↔ entry.OwnPackages own := by
  constructor
  · intro h
    rw [Job.ownPackages] at h
    split at h
    · next hnone =>
        rw [← Except.ok.inj h]
        exact .none (Or.inl hnone)
    · next hnull =>
        rw [← Except.ok.inj h]
        exact .none (Or.inr hnull)
    · next node _ hnode =>
        have h := mapError_eq_ok.mp h
        cases node with
        | mapping es =>
            obtain ⟨spacks, modules, hspacks, hmodules, rfl⟩ := Directive.identify_eq_ok_iff.mp h
            exact .listed hnode hspacks hmodules
        | null | bool | number | text | sequence | tagged => simp [Directive.identify] at h
  · intro h
    cases h with
    | none h => rcases h with h | h <;> simp [Job.ownPackages, h]
    | listed h hspacks hmodules =>
        simp only [Job.ownPackages, h]
        exact mapError_eq_ok.mpr
          (Directive.identify_eq_ok_iff.mpr ⟨_, _, hspacks, hmodules, rfl⟩)

theorem dependencies_of_resolve {policy : LookupPolicy} {found : List Dependency}
    (h : Dependency.resolve suite (entry.dependencies.getD null) policy = .ok found) :
    entry.Dependencies suite found := by
  cases hnode : entry.dependencies with
  | none =>
      rw [hnode] at h
      rw [← Except.ok.inj h]
      exact .none (Or.inl hnode)
  | some node =>
      rw [hnode] at h
      cases node with
      | null =>
          rw [← Except.ok.inj h]
          exact .none (Or.inr hnode)
      | mapping es => exact .listed hnode (Dependency.ofEntries_eq_ok_iff.mp h).1
      | bool | number | text | sequence | tagged => simp [Dependency.resolve] at h

theorem needs_of_ok {policy : LookupPolicy} {own : List Directive} {found : List Dependency}
    (hown : Job.ownPackages entry = .ok own)
    (hfound : Dependency.resolve suite (entry.dependencies.getD null) policy = .ok found) :
    entry.Needs suite (own ++ found.filterMap Dependency.directive?) :=
  ⟨own, found, ownPackages_eq_ok_iff.mp hown, dependencies_of_resolve hfound, rfl⟩

theorem Dependencies.resolve_ignore {found : List Dependency}
    (h : entry.Dependencies suite found) :
    Dependency.resolve suite (entry.dependencies.getD null) .ignore = .ok found := by
  cases h with
  | none h => rcases h with h | h <;> rw [h] <;> rfl
  | listed h hfound =>
      rw [h]
      exact Dependency.resolve_ignore_eq_ok_iff.mpr hfound

theorem Needs.unique {packages packages' : List Directive} (h : entry.Needs suite packages)
    (h' : entry.Needs suite packages') : packages = packages' := by
  obtain ⟨own, found, hown, hfound, rfl⟩ := h
  obtain ⟨own', found', hown', hfound', rfl⟩ := h'
  rw [← ownPackages_eq_ok_iff] at hown hown'
  obtain rfl := Except.ok.inj (hown.symm.trans hown')
  obtain rfl := Except.ok.inj (hfound.resolve_ignore.symm.trans hfound'.resolve_ignore)
  rfl

end TestEntry

namespace Job

/-- A line behind commands, each with an end of line. -/
def script (commands : List String) (line : String) : String :=
  String.join (commands.map (· ++ "\n")) ++ line

theorem intercalate_append_newline {lines : List String} (h : lines ≠ []) :
    "\n".intercalate lines ++ "\n" = String.join (lines.map (· ++ "\n")) := by
  induction lines with
  | nil => exact absurd rfl h
  | cons first rest ih =>
      cases rest with
      | nil => simp [String.intercalate_singleton, String.join_cons]
      | cons second others =>
          rw [String.intercalate_cons_cons, List.map_cons, String.join_cons,
            ← ih (List.cons_ne_nil _ _), String.append_assoc, String.append_assoc]

theorem withPreamble_eq (preamble : List String) (line : String) :
    withPreamble preamble line = script preamble line := by
  rw [withPreamble, script]
  split
  · next h => simp [List.isEmpty_iff.mp h]
  · next h => rw [intercalate_append_newline (by simpa using h)]

theorem commands_ne_nil (d : Directive) : d.commands ≠ [] := by
  rw [Directive.commands]
  split <;> exact List.cons_ne_nil _ _

theorem emit_eq (d : Directive) : d.emit true true = "\n".intercalate d.commands := by
  obtain ⟨manager, spec⟩ := d
  cases manager <;> rfl

/-- No package is without a command, so that none is left out. -/
theorem preambleOf_eq (packages : List Directive) :
    preambleOf packages = packages.map fun d => "\n".intercalate d.commands := by
  rw [preambleOf, List.filter_eq_self.mpr]
  · exact List.map_congr_left fun d _ => emit_eq d
  · intro text htext
    obtain ⟨⟨manager, spec⟩, -, rfl⟩ := List.mem_map.mp htext
    cases manager <;> simp [emit_eq, Directive.commands]

/-- The commands of all packages, one a line, stand before the line. -/
theorem withPreamble_preambleOf (packages : List Directive) (line : String) :
    withPreamble (preambleOf packages) line =
      script (packages.flatMap Directive.commands) line := by
  rw [withPreamble_eq, preambleOf_eq, script, script]
  congr 1
  induction packages with
  | nil => rfl
  | cons d rest ih =>
      rw [List.map_cons, List.map_cons, String.join_cons, ih, List.flatMap_cons, List.map_append,
        String.join_append, intercalate_append_newline (commands_ne_nil d)]

/-! ## The words of a line -/

theorem intercalate_cons_ne_empty {first : String} (h : first ≠ "") (separator : String)
    (others : List String) : separator.intercalate (first :: others) ≠ "" := by
  cases others with
  | nil => rwa [String.intercalate_singleton]
  | cons second others =>
      rw [String.intercalate_cons_cons, String.append_assoc]
      intro hempty
      exact h (String.append_eq_empty_iff.mp hempty).1

theorem joinWords_eq_empty_iff {words : List String} :
    joinWords words = "" ↔ words.filter (fun w => !w.isEmpty) = [] := by
  rw [joinWords]
  cases hwords : words.filter fun w => !w.isEmpty with
  | nil => simp
  | cons first others =>
      have hfirst : first ≠ "" := by
        have hmem := List.mem_filter.mp (hwords ▸ List.mem_cons_self)
        simpa using hmem.2
      simpa using intercalate_cons_ne_empty hfirst " " others

/-- A word in front of others stands alone if there is nothing in them. -/
theorem joinWords_cons (word : String) (words : List String) :
    joinWords (word :: words) =
      if word = "" then joinWords words
      else if joinWords words = "" then word else word ++ " " ++ joinWords words := by
  split
  · next hword =>
      rw [hword]
      rfl
  · next hword =>
      rw [joinWords, List.filter_cons_of_pos (by simpa using hword)]
      split
      · next hempty => rw [joinWords_eq_empty_iff.mp hempty, String.intercalate_singleton]
      · next hsome =>
          rw [String.intercalate_cons_of_ne_nil (hsome ∘ joinWords_eq_empty_iff.mpr)]
          rfl

/-- Words that were joined before are joined with the others. -/
theorem joinWords_joinWords_cons (words others : List String) :
    joinWords (joinWords words :: others) = joinWords (words ++ others) := by
  induction words with
  | nil => rfl
  | cons word words ih =>
      rw [List.cons_append, joinWords_cons word (words ++ others), ← ih, joinWords_cons word words,
        joinWords_cons (joinWords words)]
      by_cases hword : word = ""
      · rw [if_pos hword, if_pos hword, joinWords_cons]
      · rw [if_neg hword, if_neg hword]
        by_cases hwords : joinWords words = ""
        · rw [if_pos hwords, if_pos hwords, joinWords_cons, if_neg hword]
        · rw [if_neg hwords, if_neg hwords, joinWords_cons, if_neg (by simp [hword])]
          by_cases hothers : joinWords others = ""
          · rw [if_pos hothers, if_pos hothers, if_neg hwords]
          · rw [if_neg hothers, if_neg hothers, if_neg (by simp [hwords])]
            simp only [String.append_assoc]

/-! ## The jobs of an entry -/

/-- The line of a job alone. It compiles the files of the entry, or runs the program with
a value for every axis. -/
inductive IsLine (name : String) (entry : TestEntry) (compiler : Compiler)
    (options : ExpandOptions) (job : Job) : String → Prop
  | compile {language : Language} {program flags : String} (hkind : job.kind = .build language)
      (hlanguage : Language.detect entry.files compiler options.language = .ok language)
      (hprogram : programFor compiler options.language language = .ok program)
      (hflags : Variant.compose entry.variants compiler.variants options.variants = .ok flags) :
      IsLine name entry compiler options job (joinWords
        [program, entry.cflags.getD "", flags, " ".intercalate entry.files,
          "-o " ++ entry.binary.getD name, entry.ldflags.getD ""])
  | run {spec : RunSpec} {combination : Combination} (hkind : job.kind = .run)
      (hrun : entry.run = some spec) (hmem : combination ∈ combinations spec.axes)
      (haxes : job.axes = .ofList combination) :
      IsLine name entry compiler options job (joinWords
        [environment combination, spec.program.getD ("./" ++ entry.binary.getD name),
          spec.args.getD ""])

variable {suite name : String} {entry : TestEntry} {compiler : Compiler} {options : ExpandOptions}

/-- Every job that is built from a setting is the line of the job behind the preamble. -/
theorem Setting.exists_line {dependencies : List Dependency} {own : List Directive}
    {builds : List Job}
    (hbuilds : (Setting.ofEntry suite name entry dependencies own).buildJobs compiler options =
      .ok builds) :
    ∀ job ∈ builds ++ (Setting.ofEntry suite name entry dependencies own).runs, ∃ line,
      IsLine name entry compiler options job line ∧
      job.command =
        withPreamble (preambleOf (own ++ dependencies.filterMap Dependency.directive?)) line := by
  intro job hjob
  rcases List.mem_append.mp hjob with hjob | hjob
  · rcases buildJobs_eq_ok_iff.mp hbuilds with ⟨-, rfl⟩ | ⟨-, build, hbuild, rfl⟩
    · simp at hjob
    · obtain rfl := List.mem_singleton.mp hjob
      obtain ⟨language, program, flags, hlanguage, hprogram, hflags, rfl⟩ :=
        buildJob_eq_ok_iff.mp hbuild
      exact ⟨_, .compile rfl hlanguage hprogram hflags, rfl⟩
  · obtain ⟨spec, hrun, combination, hmem, rfl⟩ := Setting.mem_runs_iff.mp hjob
    exact ⟨_, .run rfl hrun hmem rfl, rfl⟩

/-- Every job of an entry, be it the build or a run, begins with the commands for all the
packages that the entry needs, in their order, one a line. Behind them stands the line of
the job and nothing else, and that is all there is if there are no packages. -/
theorem expandEntry_preamble {jobs : List Job}
    (h : expandEntry suite name entry compiler options = .ok jobs) :
    ∃ packages, entry.Needs suite packages ∧ ∀ job ∈ jobs, ∃ line,
      IsLine name entry compiler options job line ∧
      job.command = script (packages.flatMap Directive.commands) line ∧
      (packages = [] → job.command = line) := by
  obtain ⟨dependencies, own, builds, hdependencies, hown, hbuilds, rfl⟩ :=
    expandEntry_eq_ok_iff.mp h
  refine ⟨_, TestEntry.needs_of_ok hown hdependencies, fun job hjob => ?_⟩
  obtain ⟨line, hline, hcommand⟩ := Setting.exists_line hbuilds job hjob
  rw [withPreamble_preambleOf] at hcommand
  refine ⟨line, hline, hcommand, fun hnone => ?_⟩
  rw [hcommand, hnone, List.flatMap_nil, script, List.map_nil, String.join_nil, String.empty_append]

/-- Packages of both managers, the entry's own and dependencies, for a build and a run. -/
theorem expandEntry_preamble_both :
    let entry : TestEntry := {
      files := ["a.c"]
      packages := some (mapping [(text "module", text "gcc/12"), (text "spack", text "zlib")])
      dependencies := some (mapping [(text "module", text "mpi"), (text "test", text "b"),
        (text "spack", text "hdf5")])
      run := some {} }
    ∃ build run, expandEntry "ns" "a" entry {} {} = .ok [build, run] ∧
      ∀ job ∈ [build, run], ∃ line, IsLine "a" entry {} {} job line ∧
        job.command = script ["spack install zlib", "spack load zlib", "module load gcc/12",
          "module load mpi", "spack install hdf5", "spack load hdf5"] line := by
  intro entry
  obtain ⟨build, run, hjobs⟩ :
      ∃ build run, expandEntry "ns" "a" entry {} {} = .ok [build, run] := ⟨_, _, rfl⟩
  obtain ⟨packages, hneeds, hcommands⟩ := expandEntry_preamble hjobs
  have hfound : Dependency.resolve "ns" (entry.dependencies.getD null) .ignore =
      .ok [.package ⟨.module, "mpi"⟩, .test "ns/b", .package ⟨.spack, "hdf5"⟩] := rfl
  have hown : ownPackages entry = .ok [⟨.spack, "zlib"⟩, ⟨.module, "gcc/12"⟩] := rfl
  obtain rfl := hneeds.unique (TestEntry.needs_of_ok hown hfound)
  refine ⟨build, run, hjobs, fun job hjob => ?_⟩
  obtain ⟨line, hline, hcommand, -⟩ := hcommands job hjob
  exact ⟨line, hline, hcommand⟩

end Job

end Trialbook

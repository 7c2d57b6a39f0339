import Trialbook.Proofs.Reading

/-!
# What an expansion is made of

The jobs of an entry come from what its jobs have in common, a `Setting`. The
setting is read off the entry first, and only then is there a build or a run.
`Job.expandEntry_eq` says this in three steps without a branch between them, and
`Job.expandEntry_eq_ok_iff` is what later proofs take an expansion apart with.

A suite that expands is a list of entries, each with its jobs. `Job.Expands`
keeps that list, which the jobs in a row have lost.
-/

namespace Trialbook

namespace Job

variable {suite name : String} {entry : TestEntry} {compiler : Compiler} {options : ExpandOptions}

/-- What the jobs of an entry have in common, given what the entry depends on
and the packages that it declares for itself. -/
def Setting.ofEntry (suite name : String) (entry : TestEntry) (dependencies : List Dependency)
    (packages : List Directive) : Setting where
  name := name
  id := Dependency.qualify suite name
  entry := entry
  preamble := preambleOf (packages ++ dependencies.filterMap Dependency.directive?)
  tests := dependencies.filterMap Dependency.testId?

/-- The build job, if there is something to build. -/
def Setting.buildJobs (s : Setting) (compiler : Compiler) (options : ExpandOptions) :
    Except Fault (List Job) :=
  if s.entry.files.isEmpty then .ok [] else (buildJob s compiler options).map ([·])

theorem expandEntry_eq :
    expandEntry suite name entry compiler options = (do
      let dependencies ←
        Dependency.resolve suite (entry.dependencies.getD .null) options.dependencies
      let packages ← ownPackages entry
      let setting := Setting.ofEntry suite name entry dependencies packages
      let builds ← setting.buildJobs compiler options
      return builds ++ setting.runs) := by
  unfold expandEntry
  refine bind_congr fun dependencies => bind_congr fun packages => ?_
  show (if entry.files.isEmpty then _ else _) =
    (if entry.files.isEmpty then _ else _) >>= fun builds => _
  split <;> rfl

/-- An entry expands to its build jobs and its run jobs. -/
theorem expandEntry_eq_ok_iff {jobs : List Job} :
    expandEntry suite name entry compiler options = .ok jobs ↔
      ∃ dependencies packages builds,
        Dependency.resolve suite (entry.dependencies.getD .null) options.dependencies =
          .ok dependencies ∧
        ownPackages entry = .ok packages ∧
        (Setting.ofEntry suite name entry dependencies packages).buildJobs compiler options =
          .ok builds ∧
        jobs = builds ++ (Setting.ofEntry suite name entry dependencies packages).runs := by
  rw [expandEntry_eq]
  constructor
  · intro h
    obtain ⟨dependencies, hdependencies, h⟩ := bind_eq_ok.mp h
    obtain ⟨packages, hpackages, h⟩ := bind_eq_ok.mp h
    obtain ⟨builds, hbuilds, h⟩ := bind_eq_ok.mp h
    exact ⟨dependencies, packages, builds, hdependencies, hpackages, hbuilds,
      (Except.ok.inj h).symm⟩
  · rintro ⟨dependencies, packages, builds, hdependencies, hpackages, hbuilds, rfl⟩
    exact bind_eq_ok.mpr ⟨dependencies, hdependencies, bind_eq_ok.mpr ⟨packages, hpackages,
      bind_eq_ok.mpr ⟨builds, hbuilds, rfl⟩⟩⟩

theorem buildJob_eq_ok_iff {s : Setting} {job : Job} :
    buildJob s compiler options = .ok job ↔
      ∃ language program flags,
        Language.detect s.entry.files compiler options.language = .ok language ∧
        programFor compiler options.language language = .ok program ∧
        Variant.compose s.entry.variants compiler.variants options.variants = .ok flags ∧
        job = s.build language program flags := by
  constructor
  · intro h
    obtain ⟨language, hlanguage, h⟩ := bind_eq_ok.mp h
    obtain ⟨program, hprogram, h⟩ := bind_eq_ok.mp h
    obtain ⟨flags, hflags, h⟩ := bind_eq_ok.mp h
    exact ⟨language, program, flags, hlanguage, hprogram, hflags, (Except.ok.inj h).symm⟩
  · rintro ⟨language, program, flags, hlanguage, hprogram, hflags, rfl⟩
    exact bind_eq_ok.mpr ⟨language, hlanguage, bind_eq_ok.mpr ⟨program, hprogram,
      bind_eq_ok.mpr ⟨flags, hflags, rfl⟩⟩⟩

theorem Setting.buildJobs_eq_ok_iff {s : Setting} {builds : List Job} :
    s.buildJobs compiler options = .ok builds ↔
      (s.entry.files = [] ∧ builds = []) ∨
        (s.entry.files ≠ [] ∧ ∃ job, buildJob s compiler options = .ok job ∧ builds = [job]) := by
  rw [Setting.buildJobs]
  by_cases hfiles : s.entry.files = []
  · simp [hfiles, eq_comm]
  · rw [if_neg (by simpa using hfiles)]
    cases hbuild : buildJob s compiler options with
    | error fault => simp [Except.map, hfiles]
    | ok job => simp [Except.map, hfiles, eq_comm]

/-- There is nothing to build, or one job that builds it. -/
theorem Setting.buildJobs_cases {s : Setting} {builds : List Job}
    (h : s.buildJobs compiler options = .ok builds) :
    (s.entry.files = [] ∧ builds = []) ∨
      (s.entry.files ≠ [] ∧
        ∃ language program flags, builds = [s.build language program flags]) := by
  rcases Setting.buildJobs_eq_ok_iff.mp h with hnone | ⟨hfiles, job, hjob, rfl⟩
  · exact Or.inl hnone
  · obtain ⟨language, program, flags, -, -, -, rfl⟩ := buildJob_eq_ok_iff.mp hjob
    exact Or.inr ⟨hfiles, language, program, flags, rfl⟩

theorem Setting.buildId_eq (s : Setting) :
    s.buildId = s.id ++ if s.entry.run.isSome then ".build" else "" := by
  rw [Setting.buildId]
  split
  · rfl
  · exact s.id.append_empty.symm

theorem Setting.map_id_of_buildJobs {s : Setting} {builds : List Job}
    (h : s.buildJobs compiler options = .ok builds) : builds.map Job.id = s.builds := by
  rw [Setting.builds]
  rcases Setting.buildJobs_cases h with ⟨hfiles, rfl⟩ | ⟨hfiles, language, program, flags, rfl⟩
  · rw [hfiles]
    rfl
  · rw [if_neg (by simpa using hfiles)]
    rfl

/-- The runs are the runs of the combinations. -/
theorem Setting.mem_runs_iff {s : Setting} {job : Job} :
    job ∈ s.runs ↔ ∃ spec, s.entry.run = some spec ∧
      ∃ combination ∈ combinations spec.axes, s.run spec combination = job := by
  rw [Setting.runs]
  cases s.entry.run with
  | none => simp
  | some spec => simp [List.mem_map]

/-! ## The entries of a suite -/

/-- An entry of a suite, with its name and the jobs that it expands to. -/
structure Expansion where
  name : String
  entry : TestEntry
  jobs : List Job

/-- The entries of a mapping expand to these, in order. A key that begins with
a dot is no entry. -/
inductive Expands (suite : String) (compiler : Compiler) (options : ExpandOptions) :
    Entries → List Expansion → Prop
  | nil : Expands suite compiler options [] []
  | hidden {key node : Node} {es : Entries} {name : String} {xs : List Expansion}
      (hname : key.text? = some name) (hhidden : name.toList.head? = some '.')
      (others : Expands suite compiler options es xs) :
      Expands suite compiler options ((key, node) :: es) xs
  | entry {key node : Node} {es : Entries} {xs : List Expansion} {x : Expansion}
      (hname : key.text? = some x.name) (hshown : x.name.toList.head? ≠ some '.')
      (hentry : TestEntry.ofNode x.name node = .ok x.entry)
      (hjobs : expandEntry suite x.name x.entry compiler options = .ok x.jobs)
      (others : Expands suite compiler options es xs) :
      Expands suite compiler options ((key, node) :: es) (x :: xs)

theorem exists_expands {es : Entries} {jobs : List Job}
    (h : expandEntries suite compiler options es = .ok jobs) :
    ∃ xs, Expands suite compiler options es xs ∧ jobs = xs.flatMap Expansion.jobs := by
  induction es generalizing jobs with
  | nil => exact ⟨[], .nil, (Except.ok.inj h).symm⟩
  | cons e es ih =>
      obtain ⟨key, node⟩ := e
      rw [expandEntries] at h
      cases hname : key.text? with
      | none => simp [hname] at h
      | some name =>
          rw [hname] at h
          dsimp only at h
          split at h
          · next hhidden =>
              obtain ⟨xs, hxs, rfl⟩ := ih h
              exact ⟨xs, .hidden hname hhidden hxs, rfl⟩
          · next hshown =>
              obtain ⟨entry, hentry, h⟩ := bind_eq_ok.mp h
              obtain ⟨own, hown, h⟩ := bind_eq_ok.mp h
              obtain ⟨others, hothers, h⟩ := bind_eq_ok.mp h
              obtain ⟨xs, hxs, rfl⟩ := ih hothers
              exact ⟨⟨name, entry, own⟩ :: xs, .entry hname hshown hentry hown hxs,
                (Except.ok.inj h).symm⟩

namespace Expands

variable {es : Entries} {xs : List Expansion}

theorem expandEntries (h : Expands suite compiler options es xs) :
    expandEntries suite compiler options es = .ok (xs.flatMap Expansion.jobs) := by
  induction h with
  | nil => rfl
  | hidden hname hhidden _ ih =>
      rw [Job.expandEntries, hname]
      dsimp only
      rw [if_pos hhidden]
      exact ih
  | entry hname hshown hentry hjobs _ ih =>
      rw [Job.expandEntries, hname]
      dsimp only
      rw [if_neg hshown]
      exact bind_eq_ok.mpr ⟨_, hentry, bind_eq_ok.mpr ⟨_, hjobs, bind_eq_ok.mpr ⟨_, ih, rfl⟩⟩⟩

theorem expandEntry_of_mem (h : Expands suite compiler options es xs) {x : Expansion}
    (hx : x ∈ xs) : expandEntry suite x.name x.entry compiler options = .ok x.jobs := by
  induction h with
  | nil => simp at hx
  | hidden _ _ _ ih => exact ih hx
  | entry _ _ _ hjobs _ ih =>
      rcases List.mem_cons.mp hx with rfl | hx
      · exact hjobs
      · exact ih hx

end Expands

end Job

end Trialbook

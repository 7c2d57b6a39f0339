import Trialbook.Proofs.Identifiers

/-!
# Which names of other entries are names of jobs

An entry names the entries it depends on, and its jobs carry these names
qualified. The qualified name of an entry is the name of one of its jobs only if
nothing is added to it there: the build job adds `.build` when the entry runs as
well, and a run adds the values of its axes. So the name leads to a job when the
entry has no axes, and when it has axes it leads to none of the entry's jobs.
-/

namespace Trialbook

open Node

/-- The entry lists the name among the entries that it depends on. -/
def TestEntry.DependsOn (entry : TestEntry) (name : String) : Prop :=
  ∃ deps key value names, entry.dependencies = some (mapping deps) ∧ (key, value) ∈ deps ∧
    key.scalarText?.getD "" = Dependency.testKey ∧
    value.oneOrMany "depends_on.test" = .ok names ∧ name ∈ names

namespace Dependency

variable {suite : String} {policy : LookupPolicy}

theorem ofEntry_tests {key value : Node} {names : List String}
    (hkey : key.scalarText?.getD "" = testKey)
    (hnames : value.oneOrMany "depends_on.test" = .ok names) :
    ofEntry suite policy key value = .ok (names.map fun name => test (qualify suite name)) := by
  simp only [ofEntry, hkey, if_true, hnames]

theorem mem_of_ofEntries {deps : Entries} {key value : Node} {own found : List Dependency}
    (h : ofEntries suite policy deps = .ok found) (hmem : (key, value) ∈ deps)
    (hown : ofEntry suite policy key value = .ok own) : ∀ d ∈ own, d ∈ found := by
  induction deps generalizing found with
  | nil => simp at hmem
  | cons e deps ih =>
      intro d hd
      rw [ofEntries] at h
      obtain ⟨first, hfirst, h⟩ := bind_eq_ok.mp h
      obtain ⟨others, hothers, h⟩ := bind_eq_ok.mp h
      rw [← Except.ok.inj h]
      rcases List.mem_cons.mp hmem with rfl | hmem
      · rw [hown] at hfirst
        rw [← Except.ok.inj hfirst]
        exact List.mem_append_left _ hd
      · exact List.mem_append_right _ (ih hothers hmem d hd)

/-- A name that the entry lists is resolved to the qualified name. -/
theorem qualify_mem_resolve {entry : TestEntry} {name : String} {found : List Dependency}
    (hname : entry.DependsOn name)
    (h : resolve suite (entry.dependencies.getD .null) policy = .ok found) :
    test (qualify suite name) ∈ found := by
  obtain ⟨deps, key, value, names, hdeps, hmem, hkey, hnames, hname⟩ := hname
  rw [hdeps] at h
  exact mem_of_ofEntries h hmem (ofEntry_tests hkey hnames) _ (List.mem_map_of_mem hname)

end Dependency

namespace Job

variable {suite name : String} {entry : TestEntry} {compiler : Compiler} {options : ExpandOptions}

/-- Every job of an entry carries the qualified names of the entries listed. -/
theorem qualify_mem_dependsOn {other : String} {jobs : List Job} (hother : entry.DependsOn other)
    (h : expandEntry suite name entry compiler options = .ok jobs) :
    ∀ job ∈ jobs, Dependency.qualify suite other ∈ job.dependsOn := by
  obtain ⟨dependencies, packages, builds, hdependencies, -, hbuilds, rfl⟩ :=
    expandEntry_eq_ok_iff.mp h
  intro job hjob
  have htests : Dependency.qualify suite other ∈
      (Setting.ofEntry suite name entry dependencies packages).tests :=
    List.mem_filterMap.mpr ⟨_, Dependency.qualify_mem_resolve hother hdependencies, rfl⟩
  rcases List.mem_append.mp hjob with hjob | hjob
  · rcases Setting.buildJobs_cases hbuilds with ⟨-, rfl⟩ | ⟨-, language, program, flags, rfl⟩
    · simp at hjob
    · obtain rfl := List.mem_singleton.mp hjob
      exact htests
  · obtain ⟨spec, -, combination, -, rfl⟩ := Setting.mem_runs_iff.mp hjob
    exact List.mem_append_right _ htests

/-- Of an entry with jobs one adds nothing to the name just when there are no axes. -/
theorem empty_mem_endings_iff (h : endings entry ≠ []) :
    "" ∈ endings entry ↔ entry.axes = [] := by
  rw [endings] at h ⊢
  rw [TestEntry.axes]
  cases hrun : entry.run with
  | none =>
      rw [hrun] at h
      have hfiles : entry.files.isEmpty = false := by
        by_contra hfiles
        rw [Bool.not_eq_false] at hfiles
        simp [hfiles] at h
      simp [hfiles]
  | some spec =>
      show _ ↔ spec.axes = []
      cases haxes : spec.axes with
      | nil => simp [haxes, combinations, suffix]
      | cons axis rest =>
          refine iff_of_false (fun hmem => ?_) (List.cons_ne_nil _ _)
          rcases List.mem_append.mp hmem with hmem | hmem
          · split at hmem
            · simp at hmem
            · simp at hmem
          · obtain ⟨combination, hcombination, hempty⟩ := List.mem_map.mp hmem
            rw [haxes, combinations] at hcombination
            obtain ⟨value, -, hcombination⟩ := List.mem_flatMap.mp hcombination
            obtain ⟨others, -, rfl⟩ := List.mem_map.mp hcombination
            have hchars := toList_suffix_cons axis.name value others
            rw [hempty] at hchars
            simp at hchars

/-- One of the jobs of an entry has the entry's qualified name just when there
are no axes. -/
theorem exists_id_eq_qualify_iff {jobs : List Job}
    (h : expandEntry suite name entry compiler options = .ok jobs) (hjobs : jobs ≠ []) :
    (∃ job ∈ jobs, job.id = Dependency.qualify suite name) ↔ entry.axes = [] := by
  have hids := map_id_of_expandEntry h
  have hendings : endings entry ≠ [] := by
    intro hendings
    rw [hendings] at hids
    exact hjobs (List.map_eq_nil_iff.mp hids)
  rw [← empty_mem_endings_iff hendings]
  have hmem : Dependency.qualify suite name ∈ jobs.map Job.id ↔ "" ∈ endings entry := by
    rw [hids, List.mem_map]
    constructor
    · rintro ⟨ending, hending, hglued⟩
      have hchars := congrArg String.toList hglued
      rw [String.toList_append] at hchars
      rw [← String.toList_eq_nil_iff.mp (List.append_right_eq_self.mp hchars)]
      exact hending
    · exact fun hempty => ⟨"", hempty, by simp⟩
  rw [← hmem, List.mem_map]

/-- A name that an entry depends on and that is the qualified name of another
entry with jobs is carried by all jobs of the first. It is the name of a job of
the other just when the other has no axes. -/
theorem dependsOn_resolves {es : Entries} {jobs : List Job}
    (hjobs : expandSuite suite (mapping es) compiler options = .ok jobs) :
    ∃ xs, Expands suite compiler options es xs ∧ jobs = xs.flatMap Expansion.jobs ∧
      ∀ x ∈ xs, ∀ y ∈ xs, ∀ name, x.entry.DependsOn name →
        Dependency.qualify suite name = Dependency.qualify suite y.name → y.jobs ≠ [] →
        (∀ job ∈ x.jobs, Dependency.qualify suite name ∈ job.dependsOn) ∧
        ((∃ job ∈ y.jobs, job.id = Dependency.qualify suite name) ↔ y.entry.axes = []) ∧
        (y.entry.axes = [] → Dependency.qualify suite name ∈ jobs.map Job.id) := by
  obtain ⟨xs, hxs, rfl⟩ := exists_expands hjobs
  refine ⟨xs, hxs, rfl, fun x hx y hy name hname hsame hyield => ?_⟩
  have hid := exists_id_eq_qualify_iff (hxs.expandEntry_of_mem hy) hyield
  rw [← hsame] at hid
  refine ⟨qualify_mem_dependsOn hname (hxs.expandEntry_of_mem hx), hid, fun haxes => ?_⟩
  obtain ⟨job, hjob, hjobId⟩ := hid.mpr haxes
  exact List.mem_map.mpr ⟨job, List.mem_flatMap.mpr ⟨y, hy, hjob⟩, hjobId⟩

/-- A suite of two entries: one that runs over some axes, and one that runs after it. -/
def suiteAfter (axes : List Axis) : Entries :=
  [(text "a", mapping [(text "run", mapping []),
      (text "depends_on", mapping [(text "test", text "b")])]),
    (text "b", mapping [(text "run", mapping [(text "iterate", mapping (axes.map fun axis =>
      (text axis.name, sequence (axis.values.map text))))])])]

theorem dependsOn_resolves_plain :
    ∃ jobs, expandSuite "ns" (mapping (suiteAfter [])) {} {} = .ok jobs ∧
      (∃ job ∈ jobs, job.id = "ns/a" ∧ "ns/b" ∈ job.dependsOn) ∧ "ns/b" ∈ jobs.map Job.id := by
  let deps : Entries := [(text "test", text "b")]
  let a : TestEntry := { run := some {}, dependencies := some (mapping deps) }
  let b : TestEntry := { run := some {} }
  obtain ⟨jobs, hjobs⟩ : ∃ jobs, expandSuite "ns" (mapping (suiteAfter [])) {} {} = .ok jobs :=
    ⟨_, rfl⟩
  obtain ⟨xs, hxs, hflat, hresolves⟩ := dependsOn_resolves hjobs
  have hentries : xs.map (fun x => (x.name, x.entry)) = [("a", a), ("b", b)] :=
    hxs.namedEntries_eq.symm
  obtain ⟨x, hx, hxa⟩ := List.mem_map.mp (hentries ▸ List.mem_cons_self)
  obtain ⟨y, hy, hyb⟩ := List.mem_map.mp
    (hentries ▸ List.mem_cons_of_mem _ List.mem_cons_self)
  obtain ⟨xname, xentry, own⟩ := x
  obtain ⟨yname, yentry, others⟩ := y
  obtain ⟨rfl, rfl⟩ := Prod.mk.inj hxa
  obtain ⟨rfl, rfl⟩ := Prod.mk.inj hyb
  have hownJobs : expandEntry "ns" "a" a {} {} = .ok [⟨"ns/a", .run, "./a", ["ns/b"], {}⟩] := rfl
  have hothersJobs : expandEntry "ns" "b" b {} {} = .ok [⟨"ns/b", .run, "./b", [], {}⟩] := rfl
  obtain rfl := Except.ok.inj (hownJobs.symm.trans (hxs.expandEntry_of_mem hx))
  obtain rfl := Except.ok.inj (hothersJobs.symm.trans (hxs.expandEntry_of_mem hy))
  have hlists : a.DependsOn "b" :=
    ⟨deps, text "test", text "b", ["b"], rfl, List.mem_cons_self, rfl, rfl, List.mem_cons_self⟩
  obtain ⟨hcarries, -, hfound⟩ := hresolves _ hx _ hy "b" hlists rfl (List.cons_ne_nil _ _)
  refine ⟨jobs, hjobs, ⟨_, ?_, rfl, hcarries _ List.mem_cons_self⟩, hfound rfl⟩
  rw [hflat]
  exact List.mem_flatMap.mpr ⟨_, hx, List.mem_cons_self⟩

theorem dependsOn_axis_dangling :
    let jobs : List Job := [⟨"ns/a", .run, "./a", ["ns/b"], {}⟩,
      ⟨"ns/b_n1", .run, "N=1 ./b", [], ⟨[("n", "1")]⟩⟩]
    expandSuite "ns" (mapping (suiteAfter [⟨"n", ["1"]⟩])) {} {} = .ok jobs ∧
      "ns/b" ∉ jobs.map Job.id := by
  intro jobs
  exact ⟨rfl, by decide +kernel⟩

end Job

end Trialbook

import Trialbook.Proofs.Preambles

/-!
# The language of a build is the best there is

What a build is written in depends on its files only through the languages that they show
(`Language.Shows`), and of those the most preferred one with a command is taken. Where there
is none, the two policies part: the lenient one builds in a language that nothing may be
written in and the compiler may have no command for.

A strict expansion asks twice, once for a language and once for its command, and each
question alone leaves something open. Where no file shows a language nothing has been asked
of the compiler yet, so it is only the second question that makes sure of the command.
-/

namespace Trialbook

namespace Language

variable {files files' : List String} {compiler : Compiler} {policy : LookupPolicy}

/-- One of the files is in the language. -/
def Shows (files : List String) (language : Language) : Prop :=
  ∃ file ∈ files, ofFile? file = some language

instance (files : List String) : DecidablePred (Shows files) := fun language =>
  inferInstanceAs (Decidable (∃ file ∈ files, ofFile? file = some language))

theorem mem_byPreference (language : Language) : language ∈ byPreference := by
  cases language <;> decide

theorem mem_ofFiles {language : Language} : language ∈ ofFiles files ↔ Shows files language := by
  rw [ofFiles, List.mem_filter, List.contains_iff_mem, List.mem_filterMap]
  exact and_iff_right (mem_byPreference language)

theorem ofFiles_sublist (files : List String) : (ofFiles files).Sublist byPreference :=
  List.filter_sublist

theorem ofFiles_congr (h : ∀ language, Shows files language ↔ Shows files' language) :
    ofFiles files = ofFiles files' := by
  refine List.filter_congr fun language _ => ?_
  rw [Bool.eq_iff_iff, List.contains_iff_mem, List.contains_iff_mem, List.mem_filterMap,
    List.mem_filterMap]
  exact h language

theorem ofFiles_eq_nil_iff : ofFiles files = [] ↔ ∀ language, ¬ Shows files language := by
  simp only [List.eq_nil_iff_forall_not_mem, mem_ofFiles]

theorem pairwise_byPreference :
    byPreference.Pairwise fun a b => byPreference.idxOf a < byPreference.idxOf b := by decide

/-- Of some languages in order of preference the first to pass a test is the most preferred
that does. -/
theorem idxOf_le_of_find? {detected : List Language} (hsorted : detected.Sublist byPreference)
    {test : Language → Bool} {best other : Language} (h : detected.find? test = some best)
    (hmem : other ∈ detected) (hother : test other = true) :
    byPreference.idxOf best ≤ byPreference.idxOf other := by
  obtain ⟨-, before, after, rfl, hbefore⟩ := List.find?_eq_some_iff_append.mp h
  have hordered := (List.pairwise_append.mp (pairwise_byPreference.sublist hsorted)).2.1
  rcases List.mem_append.mp hmem with hmem | hmem
  · have hfails := hbefore other hmem
    simp [hother] at hfails
  · rcases List.mem_cons.mp hmem with rfl | hmem
    · exact le_refl _
    · exact le_of_lt (List.rel_of_pairwise_cons hordered hmem)

/-! ## Which language is taken -/

theorem exists_detect_of_supported {language : Language} (hshown : Shows files language)
    (hsupported : compiler.supports language.tag = true) :
    ∃ best, detect files compiler policy = .ok best ∧ Shows files best ∧
      compiler.supports best.tag = true ∧
      ∀ other, Shows files other → compiler.supports other.tag = true →
        byPreference.idxOf best ≤ byPreference.idxOf other := by
  cases hfind : (ofFiles files).find? fun l => compiler.supports l.tag with
  | none =>
      rw [List.find?_eq_none] at hfind
      exact absurd hsupported (hfind language (mem_ofFiles.mpr hshown))
  | some best =>
      have hsupports : compiler.supports best.tag = true := by simpa using List.find?_some hfind
      refine ⟨best, by rw [detect, hfind], mem_ofFiles.mp (List.mem_of_find?_eq_some hfind),
        hsupports, fun other hother hsupports => ?_⟩
      exact idxOf_le_of_find? (ofFiles_sublist files) hfind (mem_ofFiles.mpr hother) hsupports

theorem find?_ofFiles_eq_none
    (h : ∀ language, Shows files language → compiler.supports language.tag = false) :
    ((ofFiles files).find? fun l => compiler.supports l.tag) = none := by
  rw [List.find?_eq_none]
  intro language hlanguage
  rw [h language (mem_ofFiles.mp hlanguage)]
  exact Bool.false_ne_true

theorem detect_of_not_shows (h : ∀ language, ¬ Shows files language) :
    detect files compiler policy = .ok cc := by
  have hnone : ((ofFiles files).find? fun l => compiler.supports l.tag) = none :=
    find?_ofFiles_eq_none fun language hlanguage => absurd hlanguage (h language)
  rw [detect, hnone, ofFiles_eq_nil_iff.mpr h]
  rfl

theorem detect_of_unsupported (hshown : ∃ language, Shows files language)
    (h : ∀ language, Shows files language → compiler.supports language.tag = false) :
    detect files compiler policy =
      match policy with
      | .ignore => .ok cc
      | .error => .error (.unsupportedLanguages (ofFiles files)) := by
  have hne : ofFiles files ≠ [] := fun hnil => by
    obtain ⟨language, hlanguage⟩ := hshown
    exact ofFiles_eq_nil_iff.mp hnil language hlanguage
  rw [detect, find?_ofFiles_eq_none h]
  cases policy <;> simp [hne, default]

/-- A strict choice is one that the files show, if they show any. -/
theorem shows_of_detect {language : Language} (hshown : ∃ other, Shows files other)
    (h : detect files compiler .error = .ok language) : Shows files language := by
  by_cases hsupported : ∃ other, Shows files other ∧ compiler.supports other.tag = true
  · obtain ⟨other, hother, hsupports⟩ := hsupported
    obtain ⟨best, hbest, hshows, -, -⟩ := exists_detect_of_supported hother hsupports
    obtain rfl := Except.ok.inj (h.symm.trans hbest)
    exact hshows
  · rw [detect_of_unsupported hshown] at h
    · simp at h
    · simpa using hsupported

end Language

namespace Job

variable {compiler : Compiler} {options : ExpandOptions}

theorem exists_joinWords_cons (word : String) {words : List String} (h : ∃ w ∈ words, w ≠ "") :
    ∃ rest, joinWords (word :: words) = word ++ rest ∧
      (word ≠ "" → ∃ more, rest = " " ++ more) := by
  have hsome : joinWords words ≠ "" := by
    obtain ⟨w, hw, hnonempty⟩ := h
    intro hempty
    exact List.filter_eq_nil_iff.mp (joinWords_eq_empty_iff.mp hempty) w hw
      (by simpa using hnonempty)
  rw [joinWords_cons, if_neg hsome]
  split
  · next hword => exact ⟨joinWords words, by rw [hword, String.empty_append], absurd hword⟩
  · exact ⟨" " ++ joinWords words, String.append_assoc .., fun _ => ⟨_, rfl⟩⟩

theorem command?_of_programFor {language : Language} {program : String}
    (h : programFor compiler .error language = .ok program) :
    compiler.command? language.tag = some program := by
  unfold programFor at h
  split at h <;> simp_all

/-- The line of a build begins with the command for its language. -/
theorem IsLine.exists_program {name : String} {entry : TestEntry} {job : Job} {line : String}
    {language : Language} (h : IsLine name entry compiler options job line)
    (hkind : job.kind = .build language) :
    Language.detect entry.files compiler options.language = .ok language ∧
      ∃ program, programFor compiler options.language language = .ok program ∧
        ∃ arguments, line = program ++ arguments ∧
          (program ≠ "" → ∃ more, arguments = " " ++ more) := by
  cases h with
  | @compile other program flags hbuild hlanguage hprogram hflags =>
      obtain rfl : other = language := JobKind.build.inj (hbuild.symm.trans hkind)
      exact ⟨hlanguage, program, hprogram,
        exists_joinWords_cons program ⟨"-o " ++ entry.binary.getD name, by simp, by simp⟩⟩
  | run hrun => exact absurd (hrun.symm.trans hkind) (by simp)

/-- The language of some files is a matter of the languages that they show. It is the most
preferred one of these that the compiler has a command for. If they show none it is C, and
if there is a command for none of them it is C as well, or under the strict policy a fault
that names them all, the most preferred one first.

So a strict expansion of an entry with files has a build job, the compiler has a command for
the job's language, and that command begins the line behind the packages. If the files show
any language, the job's is one of theirs. -/
theorem language_buildable (files : List String) (compiler : Compiler) (policy : LookupPolicy) :
    (∀ files', (∀ language, Language.Shows files language ↔ Language.Shows files' language) →
      Language.detect files compiler policy = Language.detect files' compiler policy) ∧
    (∀ language, Language.Shows files language → compiler.supports language.tag = true →
      ∃ best, Language.detect files compiler policy = .ok best ∧ Language.Shows files best ∧
        compiler.supports best.tag = true ∧
        ∀ other, Language.Shows files other → compiler.supports other.tag = true →
          Language.byPreference.idxOf best ≤ Language.byPreference.idxOf other) ∧
    ((∀ language, ¬ Language.Shows files language) →
      Language.detect files compiler policy = .ok .cc) ∧
    ((∃ language, Language.Shows files language) →
      (∀ language, Language.Shows files language → compiler.supports language.tag = false) →
      ∃ shown : List Language, shown.Sublist Language.byPreference ∧
        (∀ language, language ∈ shown ↔ Language.Shows files language) ∧
        Language.detect files compiler policy =
          match policy with
          | .ignore => .ok .cc
          | .error => .error (.unsupportedLanguages shown)) ∧
    ∀ suite name entry options jobs, entry.files ≠ [] → options.language = .error →
      expandEntry suite name entry compiler options = .ok jobs →
      ∃ build runs language program packages arguments, jobs = build :: runs ∧
        build.kind = .build language ∧ (∀ run ∈ runs, run.kind = .run) ∧
        compiler.command? language.tag = some program ∧
        TestEntry.Needs suite entry packages ∧
        build.command = script (packages.flatMap Directive.commands) (program ++ arguments) ∧
        (program ≠ "" → ∃ more, arguments = " " ++ more) ∧
        ((∃ shown, Language.Shows entry.files shown) → Language.Shows entry.files language) := by
  refine ⟨fun files' h => ?_, fun language => Language.exists_detect_of_supported,
    Language.detect_of_not_shows, fun hshown h => ?_, ?_⟩
  · rw [Language.detect, Language.detect, Language.ofFiles_congr h]
  · exact ⟨_, Language.ofFiles_sublist files, fun _ => Language.mem_ofFiles,
      Language.detect_of_unsupported hshown h⟩
  · intro suite name entry options jobs hfiles hstrict h
    obtain ⟨dependencies, own, builds, hdependencies, hown, hbuilds, rfl⟩ :=
      expandEntry_eq_ok_iff.mp h
    rcases Setting.buildJobs_eq_ok_iff.mp hbuilds with ⟨hnil, -⟩ | ⟨-, build, hbuild, rfl⟩
    · exact absurd hnil hfiles
    obtain ⟨line, hline, hcommand⟩ := Setting.exists_line hbuilds build (by simp)
    obtain ⟨language, _, _, -, -, -, rfl⟩ := buildJob_eq_ok_iff.mp hbuild
    obtain ⟨hlanguage, program, hprogram, arguments, rfl, hspace⟩ := hline.exists_program rfl
    rw [hstrict] at hlanguage hprogram
    rw [withPreamble_preambleOf] at hcommand
    have hruns : ∀ run ∈ (Setting.ofEntry suite name entry dependencies own).runs,
        run.kind = .run := by
      intro run hrun
      obtain ⟨spec, -, combination, -, rfl⟩ := Setting.mem_runs_iff.mp hrun
      rfl
    exact ⟨_, _, language, program, _, arguments, rfl, rfl, hruns, command?_of_programFor hprogram,
      TestEntry.needs_of_ok hown hdependencies, hcommand, hspace,
      fun hshown => Language.shows_of_detect hshown hlanguage⟩

/-- The compiler has no command for the most preferred language of the files, but for another
one. Alone, files of the first cannot be built strictly. -/
theorem language_buildable_second_best :
    let compiler : Compiler := ⟨⟨[("cc", "gcc"), ("f90", "gfortran")]⟩, {}⟩
    let entry : TestEntry := { files := ["a.f08", "README", "b.f90"] }
    Language.detect ["README", "b.f90", "a.f08", "a.f08"] compiler .error = .ok .f90 ∧
      Language.detect ["README"] compiler .error = .ok .cc ∧
      (∃ shown, .f08 ∈ shown ∧
        Language.detect ["a.f08"] compiler .error = .error (.unsupportedLanguages shown)) ∧
      ∃ build runs more, expandEntry "ns" "a" entry compiler ⟨.ignore, .ignore, .error⟩ =
          .ok (build :: runs) ∧
        build.kind = .build .f90 ∧ build.command = "gfortran " ++ more := by
  intro compiler entry
  obtain ⟨hsame, hbest, -, -, hstrict⟩ := language_buildable entry.files compiler .error
  have hboth : ∀ language, Language.Shows entry.files language ↔
      Language.Shows ["README", "b.f90", "a.f08", "a.f08"] language := by
    intro language
    cases language <;> decide +kernel
  have honly : ∀ language, Language.Shows entry.files language →
      compiler.supports language.tag = true → language = .f90 := by
    intro language
    cases language <;> decide +kernel
  obtain ⟨best, hdetect, hshown, hsupported, -⟩ := hbest .f90 (by decide +kernel) rfl
  obtain rfl := honly best hshown hsupported
  obtain ⟨shown, -, hmem, hfault⟩ := (language_buildable ["a.f08"] compiler .error).2.2.2.1
    ⟨.f08, by decide +kernel⟩ (by intro language; cases language <;> decide +kernel)
  obtain ⟨jobs, hjobs⟩ :
      ∃ jobs, expandEntry "ns" "a" entry compiler ⟨.ignore, .ignore, .error⟩ = .ok jobs := ⟨_, rfl⟩
  obtain ⟨build, runs, language, program, packages, arguments, rfl, hkind, -, hprogram, hneeds,
    hcommand, hspace, hshows⟩ := hstrict "ns" "a" entry _ jobs (by simp [entry]) rfl hjobs
  have hsupports : compiler.supports language.tag = true := by
    show (compiler.command? language.tag).isSome = true
    rw [hprogram]
    rfl
  obtain rfl := honly language (hshows ⟨.f90, by decide +kernel⟩) hsupports
  obtain rfl : "gfortran" = program := Option.some.inj hprogram
  obtain ⟨more, rfl⟩ := hspace (by decide)
  have hnone : Dependency.resolve "ns" (entry.dependencies.getD .null) .ignore = .ok [] := rfl
  have hown : ownPackages entry = .ok [] := rfl
  obtain rfl := hneeds.unique (TestEntry.needs_of_ok hown hnone)
  refine ⟨(hsame _ hboth).symm.trans hdetect, ?_,
    ⟨shown, (hmem .f08).mpr (by decide +kernel), hfault⟩, build, runs, more, hjobs, hkind, ?_⟩
  · exact (language_buildable ["README"] compiler .error).2.2.1
      (by intro language; cases language <;> decide +kernel)
  · rw [hcommand, ← String.append_assoc]
    rfl

end Job

end Trialbook

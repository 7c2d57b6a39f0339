import Trialbook.Proofs.Expansion
import Mathlib.Data.List.Nodup

/-!
# When the names of jobs are unique

The name of a job is glued together: the qualified name of its entry, and behind
it nothing, `.build`, or an underscore with an axis and its value for each axis.
Nothing in the name says where one part ends and the next begins, so two jobs can
have one name, across entries and within one.

They cannot where no part goes on as the next one would begin. That is a
condition on pairs of names and on pairs of values of one axis, and under it the
names of all jobs differ. Every case of the proof ends in the same
way: of two glued names that are equal the shorter first part is a proper
beginning of the longer one, and what follows it there is how some ending begins.
-/

namespace Trialbook

open Node

/-- The axes of an entry, none if it does not run. -/
def TestEntry.axes (entry : TestEntry) : List Axis :=
  match entry.run with
  | none => []
  | some spec => spec.axes

namespace Job

/-! ## What a name ends in -/

theorem toList_suffix_cons (axis value : String) (combination : Combination) :
    (suffix ((axis, value) :: combination)).toList =
      '_' :: (axis.toList ++ (value.toList ++ (suffix combination).toList)) := by
  simp [suffix]

/-- The ending of a run begins with an underscore unless there are no axes. -/
theorem suffix_eq_empty_or (combination : Combination) :
    suffix combination = "" ∨ ∃ rest, (suffix combination).toList = '_' :: rest := by
  cases combination with
  | nil => exact Or.inl rfl
  | cons choice rest => exact Or.inr ⟨_, toList_suffix_cons choice.1 choice.2 rest⟩

/-- What the names of an entry's jobs add to its qualified name. -/
def endings (entry : TestEntry) : List String :=
  (if entry.files.isEmpty then [] else [if entry.run.isSome then ".build" else ""]) ++
    match entry.run with
    | none => []
    | some spec => (combinations spec.axes).map suffix

variable {suite : String} {compiler : Compiler} {options : ExpandOptions}

theorem map_id_of_expandEntry {name : String} {entry : TestEntry} {jobs : List Job}
    (h : expandEntry suite name entry compiler options = .ok jobs) :
    jobs.map Job.id = (endings entry).map (Dependency.qualify suite name ++ ·) := by
  obtain ⟨dependencies, packages, builds, -, -, hbuilds, rfl⟩ := expandEntry_eq_ok_iff.mp h
  have hbuildIds : builds.map Job.id =
      (if entry.files.isEmpty then [] else [if entry.run.isSome then ".build" else ""]).map
        (Dependency.qualify suite name ++ ·) := by
    rw [Setting.map_id_of_buildJobs hbuilds, Setting.builds, Setting.buildId_eq]
    show (if entry.files.isEmpty then [] else [_]) = _
    split <;> rfl
  have hrunIds : (Setting.ofEntry suite name entry dependencies packages).runs.map Job.id =
      (match entry.run with
        | none => []
        | some spec => (combinations spec.axes).map suffix).map
          (Dependency.qualify suite name ++ ·) := by
    show (match entry.run with
      | none => []
      | some spec => (combinations spec.axes).map (Setting.run _ spec)).map Job.id = _
    cases entry.run with
    | none => rfl
    | some spec =>
        rw [List.map_map, List.map_map]
        rfl
  rw [List.map_append, hbuildIds, hrunIds, endings, List.map_append]

theorem mem_endings {entry : TestEntry} {ending : String} (h : ending ∈ endings entry) :
    ending = "" ∨ (ending = ".build" ∧ entry.files ≠ [] ∧ entry.run ≠ none) ∨
      ∃ combination ∈ combinations entry.axes, ending = suffix combination := by
  rw [endings] at h
  rcases List.mem_append.mp h with h | h
  · split at h
    · simp at h
    · next hfiles =>
        rw [List.mem_singleton] at h
        cases hrun : entry.run with
        | none => exact Or.inl (by simpa [hrun] using h)
        | some spec =>
            have hending : ending = ".build" := by simpa [hrun] using h
            exact Or.inr (Or.inl ⟨hending, by simpa using hfiles, by simp⟩)
  · split at h
    · simp at h
    · next spec hrun =>
        obtain ⟨combination, hcombination, rfl⟩ := List.mem_map.mp h
        rw [TestEntry.axes, hrun]
        exact Or.inr (Or.inr ⟨combination, hcombination, rfl⟩)

/-! ## Glued texts -/

/-- Of two first parts that differ the shorter one goes on, in the longer one,
with how its own second part begins. -/
theorem exists_overhang {first second first' second' : List Char}
    (h : first ++ second = first' ++ second') (hne : first ≠ first') :
    (∃ u, u ≠ [] ∧ first' = first ++ u ∧ second = u ++ second') ∨
      ∃ u, u ≠ [] ∧ first = first' ++ u ∧ second' = u ++ second := by
  rcases List.append_eq_append_iff.mp h with ⟨u, hfirst, hsecond⟩ | ⟨u, hfirst, hsecond⟩
  · refine Or.inl ⟨u, ?_, hfirst, hsecond⟩
    rintro rfl
    exact hne (by simpa using hfirst.symm)
  · refine Or.inr ⟨u, ?_, hfirst, hsecond⟩
    rintro rfl
    exact hne (by simpa using hfirst)

/-- The longer text goes on from the first one and ends inside what follows it. -/
def CutsInto (text ending longer : String) : Prop :=
  longer ≠ text ∧ text.toList <+: longer.toList ∧ longer.toList <+: text.toList ++ ending.toList

instance (text ending longer : String) : Decidable (CutsInto text ending longer) :=
  inferInstanceAs (Decidable (_ ∧ _ ∧ _))

theorem cutsInto_of_overhang {text ending longer : String} {u second : List Char} (hu : u ≠ [])
    (hlonger : longer.toList = text.toList ++ u) (hending : ending.toList = u ++ second) :
    CutsInto text ending longer := by
  refine ⟨?_, ⟨u, hlonger.symm⟩, ⟨second, ?_⟩⟩
  · rintro rfl
    exact hu (List.append_right_eq_self.mp hlonger.symm)
  · rw [hlonger, hending, List.append_assoc]

/-! ## One entry -/

/-- No value of an axis ends inside what the later axes add to another one. -/
def Separated : List Axis → Prop
  | [] => True
  | axis :: rest =>
    (∀ value ∈ axis.values, ∀ longer ∈ axis.values, ∀ combination ∈ combinations rest,
      ¬ CutsInto value (suffix combination) longer) ∧ Separated rest

instance decidableSeparated : (axes : List Axis) → Decidable (Separated axes)
  | [] => inferInstanceAs (Decidable True)
  | _ :: rest =>
    have := decidableSeparated rest
    inferInstanceAs (Decidable (_ ∧ _))

/-- No two combinations have one ending. -/
theorem nodup_suffixes {axes : List Axis} (hvalues : ∀ axis ∈ axes, axis.values.Nodup)
    (hseparated : Separated axes) : ((combinations axes).map suffix).Nodup := by
  induction axes with
  | nil => simp [combinations]
  | cons axis rest ih =>
      have hothers := ih (fun other hother => hvalues other (List.mem_cons_of_mem _ hother))
        hseparated.2
      have hown := hvalues axis List.mem_cons_self
      rw [combinations, List.map_flatMap, List.nodup_flatMap]
      refine ⟨fun value _ => ?_,
        hown.pairwise_of_forall_ne fun value hvalue longer hlonger hne => ?_⟩
      · rw [List.map_map]
        refine (List.Nodup.of_map _ hothers).map_on fun c hc c' hc' heq => ?_
        have hchars := congrArg String.toList heq
        rw [Function.comp, Function.comp, toList_suffix_cons, toList_suffix_cons] at hchars
        have hsame : (suffix c).toList = (suffix c').toList := by simpa using hchars
        exact List.inj_on_of_nodup_map hothers hc hc' (String.toList_inj.mp hsame)
      · refine List.disjoint_left.mpr fun ending hending hending' => ?_
        dsimp only at hending hending'
        rw [List.map_map] at hending hending'
        obtain ⟨c, hc, rfl⟩ := List.mem_map.mp hending
        obtain ⟨c', hc', heq⟩ := List.mem_map.mp hending'
        have hchars := congrArg String.toList heq
        rw [Function.comp, Function.comp, toList_suffix_cons, toList_suffix_cons] at hchars
        have hglued : longer.toList ++ (suffix c').toList = value.toList ++ (suffix c).toList := by
          simpa using hchars
        have hfirst : longer.toList ≠ value.toList := fun h => hne (String.toList_inj.mp h).symm
        rcases exists_overhang hglued hfirst with ⟨u, hu, hlong, hsecond⟩ | ⟨u, hu, hlong, hsecond⟩
        · exact hseparated.1 longer hlonger value hvalue c' hc'
            (cutsInto_of_overhang hu hlong hsecond)
        · exact hseparated.1 value hvalue longer hlonger c hc
            (cutsInto_of_overhang hu hlong hsecond)

theorem nodup_endings {entry : TestEntry} (hvalues : ∀ axis ∈ entry.axes, axis.values.Nodup)
    (hseparated : Separated entry.axes) : (endings entry).Nodup := by
  rw [endings]
  cases hrun : entry.run with
  | none => split <;> simp
  | some spec =>
      rw [TestEntry.axes, hrun] at hvalues hseparated
      have hruns := nodup_suffixes hvalues hseparated
      dsimp only
      split
      · simpa using hruns
      · rw [List.nodup_append']
        refine ⟨List.nodup_singleton _, hruns, ?_⟩
        rw [List.disjoint_left]
        intro ending hending hsuffix
        rw [List.mem_singleton] at hending
        obtain ⟨c, -, hbuild⟩ := List.mem_map.mp hsuffix
        have hbuild : suffix c = ".build" := by rw [hbuild, hending]; rfl
        rcases suffix_eq_empty_or c with hempty | ⟨rest, hrest⟩
        · rw [hempty] at hbuild
          simp at hbuild
        · rw [hbuild] at hrest
          simp at hrest

/-! ## All entries -/

/-- The entries of a suite with their names, as far as they can be read. -/
def namedEntries (es : Entries) : List (String × TestEntry) :=
  es.filterMap fun e => do
    let name ← e.1.text?
    if name.toList.head? = some '.' then none
    else
      let entry ← (TestEntry.ofNode name e.2).toOption
      return (name, entry)

theorem Expands.namedEntries_eq {es : Entries} {xs : List Expansion}
    (h : Expands suite compiler options es xs) :
    namedEntries es = xs.map fun x => (x.name, x.entry) := by
  induction h with
  | nil => rfl
  | hidden hname hhidden _ ih =>
      rw [namedEntries, List.filterMap_cons_none, ← ih]
      · rfl
      · rw [hname]
        exact if_pos hhidden
  | @entry key node es xs x hname hshown hentry _ _ ih =>
      rw [List.map_cons, ← ih, namedEntries, List.filterMap_cons_some (b := (x.name, x.entry))]
      · rfl
      · rw [hname]
        show (if _ then none else _) = _
        rw [if_neg hshown, hentry]
        rfl

/-- The entries have names of their own, none of them qualified already, and no
axis lists a value twice. -/
structure Distinct (es : Entries) : Prop where
  names : ((namedEntries es).map Prod.fst).Nodup
  unqualified : ∀ e ∈ namedEntries es, '/' ∉ e.1.toList
  values : ∀ e ∈ namedEntries es, ∀ axis ∈ e.2.axes, axis.values.Nodup

/-- No value of an axis ends inside what the later axes add to another one, no
name of an entry inside what its axes add to another one, and no entry is named
after the build job of one that runs. -/
structure Apart (es : Entries) : Prop where
  values : ∀ e ∈ namedEntries es, Separated e.2.axes
  runs : ∀ e ∈ namedEntries es, ∀ combination ∈ combinations e.2.axes,
    ∀ f ∈ namedEntries es, ¬ CutsInto e.1 (suffix combination) f.1
  builds : ∀ e ∈ namedEntries es, e.2.files ≠ [] → e.2.run ≠ none →
    ∀ f ∈ namedEntries es, f.1 ≠ e.1 ++ ".build"

/-- An ending of one entry does not make up for what its name lacks of another. -/
theorem Apart.not_overhang {es : Entries} (h : Apart es) {e f : String × TestEntry}
    (he : e ∈ namedEntries es) (hf : f ∈ namedEntries es) {ending ending' : String}
    (hending : ending ∈ endings e.2) (hending' : ending' ∈ endings f.2) {u : List Char}
    (hu : u ≠ []) (hname : f.1.toList = e.1.toList ++ u)
    (hglued : ending.toList = u ++ ending'.toList) : False := by
  rcases mem_endings hending with rfl | ⟨rfl, hfiles, hrun⟩ | ⟨combination, hcombination, rfl⟩
  · exact hu (List.append_eq_nil_iff.mp hglued.symm).1
  · -- what is left of the build's ending has no underscore in it and is no ending either
    have hletters : ∀ c ∈ ending'.toList, c ∈ ".build".toList := fun c hc => by
      rw [hglued]
      exact List.mem_append_right _ hc
    have hempty : ending' = "" := by
      rcases mem_endings hending' with rfl | ⟨rfl, -, -⟩ | ⟨combination, hcombination, rfl⟩
      · rfl
      · exact absurd (List.append_left_eq_self.mp hglued.symm) hu
      · rcases suffix_eq_empty_or combination with hempty | ⟨rest, hrest⟩
        · exact hempty
        · have hmem := hletters '_' (by rw [hrest]; exact List.mem_cons_self)
          simp at hmem
    refine h.builds e he hfiles hrun f hf (String.toList_inj.mp ?_)
    rw [hname, String.toList_append, hglued, hempty]
    simp
  · exact h.runs e he combination hcombination f hf (cutsInto_of_overhang hu hname hglued)

/-- The names of all jobs of a suite differ if its entries and the values of its
axes do, and none of them goes on as another one. -/
theorem nodup_ids {es : Entries} {jobs : List Job} (hdistinct : Distinct es) (hapart : Apart es)
    (hjobs : expandSuite suite (mapping es) compiler options = .ok jobs) :
    (jobs.map Job.id).Nodup := by
  obtain ⟨xs, hxs, rfl⟩ := exists_expands hjobs
  have hnamed := hxs.namedEntries_eq
  have hmem : ∀ x ∈ xs, (x.name, x.entry) ∈ namedEntries es := fun x hx => by
    rw [hnamed]
    exact List.mem_map_of_mem hx
  have hids : ∀ x ∈ xs, x.jobs.map Job.id =
      (endings x.entry).map (suite ++ "/" ++ x.name ++ ·) := fun x hx => by
    have hqualify : Dependency.qualify suite x.name = suite ++ "/" ++ x.name := by
      rw [Dependency.qualify, if_neg (by simpa using hdistinct.unqualified _ (hmem x hx))]
    rw [map_id_of_expandEntry (hxs.expandEntry_of_mem hx), hqualify]
  have hnames : xs.Pairwise fun x y => x.name ≠ y.name := by
    have hnodup := hdistinct.names
    rw [hnamed, List.map_map] at hnodup
    exact List.pairwise_map.mp hnodup
  rw [List.map_flatMap, List.nodup_flatMap]
  refine ⟨fun x hx => ?_, hnames.imp_of_mem fun {x y} hx hy hne => ?_⟩
  · rw [hids x hx]
    refine (nodup_endings (hdistinct.values _ (hmem x hx)) (hapart.values _ (hmem x hx))).map ?_
    intro ending ending' heq
    have hchars := congrArg String.toList heq
    simp only [String.toList_append] at hchars
    exact String.toList_inj.mp (List.append_cancel_left hchars)
  · refine List.disjoint_left.mpr fun id hid hid' => ?_
    dsimp only at hid hid'
    rw [hids x hx] at hid
    rw [hids y hy] at hid'
    obtain ⟨ending, hending, rfl⟩ := List.mem_map.mp hid
    obtain ⟨ending', hending', heq⟩ := List.mem_map.mp hid'
    have hchars := congrArg String.toList heq
    simp only [String.toList_append, List.append_assoc] at hchars
    have hglued := List.append_cancel_left (List.append_cancel_left hchars)
    have hfirst : y.name.toList ≠ x.name.toList := fun h => hne (String.toList_inj.mp h).symm
    rcases exists_overhang hglued hfirst with ⟨u, hu, hname, hsecond⟩ | ⟨u, hu, hname, hsecond⟩
    · exact hapart.not_overhang (hmem y hy) (hmem x hx) hending' hending hu hname hsecond
    · exact hapart.not_overhang (hmem x hx) (hmem y hy) hending hending' hu hname hsecond

/-- A suite of entries that build some files, if any, and run over some axes. -/
def suiteOf (entries : List (String × List String × List Axis)) : Entries :=
  entries.map fun (name, files, axes) => (text name, mapping [
    (text "files", sequence (files.map text)),
    (text "run", mapping [(text "iterate", mapping (axes.map fun axis =>
      (text axis.name, sequence (axis.values.map text))))])])

theorem nodup_ids_near :
    let es := suiteOf [("a", ["a.c"], [⟨"x", ["1", "1_2"]⟩, ⟨"y", ["1"]⟩]), ("a_y", [], [])]
    let compiler : Compiler := ⟨⟨[("cc", "gcc")]⟩, {}⟩
    Distinct es ∧ Apart es ∧ ∃ jobs, expandSuite "ns" (mapping es) compiler {} = .ok jobs ∧
      jobs.map Job.id = ["ns/a.build", "ns/a_x1_y1", "ns/a_x1_2_y1", "ns/a_y"] ∧
      (jobs.map Job.id).Nodup := by
  intro es compiler
  have hdistinct : Distinct es := ⟨by decide +kernel, by decide +kernel, by decide +kernel⟩
  have hapart : Apart es := ⟨by decide +kernel, by decide +kernel, by decide +kernel⟩
  obtain ⟨jobs, hjobs, hids⟩ : ∃ jobs, expandSuite "ns" (mapping es) compiler {} = .ok jobs ∧
      jobs.map Job.id = ["ns/a.build", "ns/a_x1_y1", "ns/a_x1_2_y1", "ns/a_y"] :=
    ⟨_, rfl, by decide +kernel⟩
  exact ⟨hdistinct, hapart, jobs, hjobs, hids, nodup_ids hdistinct hapart hjobs⟩

/-- Each part of `Apart` is needed: a suite breaks the second, one the third and
one the first. -/
theorem ids_clash :
    let suites := [suiteOf [("a", [], [⟨"x", ["1"]⟩]), ("a_x1", [], [])],
      suiteOf [("a", ["a.c"], []), ("a.build", [], [])],
      suiteOf [("a", [], [⟨"x", ["1", "1_y1"]⟩, ⟨"y", ["2", "1_y2"]⟩])]]
    let compiler : Compiler := ⟨⟨[("cc", "gcc")]⟩, {}⟩
    ∀ es ∈ suites, Distinct es ∧
      ∃ jobs, expandSuite "ns" (mapping es) compiler {} = .ok jobs ∧ ¬ (jobs.map Job.id).Nodup := by
  intro suites compiler
  simp only [suites, List.forall_mem_cons]
  refine ⟨⟨⟨?_, ?_, ?_⟩, _, rfl, ?_⟩, ⟨⟨?_, ?_, ?_⟩, _, rfl, ?_⟩, ⟨⟨?_, ?_, ?_⟩, _, rfl, ?_⟩,
    by simp⟩
  all_goals decide +kernel

end Job

end Trialbook

import Trialbook.Proofs.Expansion
import Trialbook.Proofs.Needs

/-!
# Strictness only rejects

A lookup policy is asked in one situation only, when a lookup has found
nothing. Under the strict policy that is a fault, so a run that gives a result
has never asked. It is replayed step for step under the lenient policy, which
goes on where the strict one would have stopped.

The lemmas below walk this through every layer that has a policy in reach: the
dependencies, the language, the command, the variants, and from there an entry
and a suite. The second half is about the faults that are left when no policy is
strict. They are all about the shape of the document.
-/

namespace Trialbook

open Node

/-- The second policy is the first one, or has been relaxed to the lenient one. -/
def LookupPolicy.RelaxesTo (policy policy' : LookupPolicy) : Prop :=
  policy' = policy ∨ policy' = .ignore

/-- Every policy of the options stays or is relaxed. -/
structure ExpandOptions.RelaxesTo (options options' : ExpandOptions) : Prop where
  variants : options.variants.RelaxesTo options'.variants
  dependencies : options.dependencies.RelaxesTo options'.dependencies
  language : options.language.RelaxesTo options'.language

/-- A result that the lenient policy keeps is kept by every relaxation. -/
theorem LookupPolicy.RelaxesTo.ok {ε α : Type} {policy policy' : LookupPolicy}
    (h : policy.RelaxesTo policy') (look : LookupPolicy → Except ε α) {r : α}
    (hlenient : look policy = .ok r → look .ignore = .ok r) (hr : look policy = .ok r) :
    look policy' = .ok r := by
  rcases h with rfl | rfl
  · exact hr
  · exact hlenient hr

/-! ## What the strict policy lets through -/

namespace Dependency

variable {suite : String} {policy : LookupPolicy} {found : List Dependency}

theorem ofEntries_ignore {es : Entries} (h : ofEntries suite policy es = .ok found) :
    ofEntries suite .ignore es = .ok found :=
  ofEntries_eq_ok_iff.mpr ⟨(ofEntries_eq_ok_iff.mp h).1, by simp⟩

theorem resolve_ignore {node : Node} (h : resolve suite node policy = .ok found) :
    resolve suite node .ignore = .ok found := by
  cases node with
  | mapping es => exact ofEntries_ignore h
  | null | bool | number | text | sequence | tagged => exact h

end Dependency

theorem Language.detect_ignore {files : List String} {compiler : Compiler} {policy : LookupPolicy}
    {language : Language} (h : detect files compiler policy = .ok language) :
    detect files compiler .ignore = .ok language := by
  rw [detect] at h ⊢
  split at h
  · exact h
  · split at h
    · simpa using h
    · simp at h

namespace Variant

variable {flags : Text.Dictionary} {policy : LookupPolicy} {requested : List String}

theorem flagsOf_ignore {found : List String} (h : flagsOf flags policy requested = .ok found) :
    flagsOf flags .ignore requested = .ok found := by
  induction requested generalizing found with
  | nil => exact h
  | cons name requested ih =>
      unfold flagsOf at h ⊢
      cases hget : flags.get? name with
      | some own =>
          rw [hget] at h
          obtain ⟨others, hothers, hall⟩ := bind_eq_ok.mp h
          exact bind_eq_ok.mpr ⟨others, ih hothers, hall⟩
      | none =>
          rw [hget] at h
          cases policy with
          | ignore => exact ih h
          | error => simp at h

theorem compose_ignore {text : String} (h : compose requested flags policy = .ok text) :
    compose requested flags .ignore = .ok text := by
  rw [compose] at h ⊢
  obtain ⟨found, hflags, htext⟩ := map_eq_ok.mp h
  exact map_eq_ok.mpr ⟨found, flagsOf_ignore hflags, htext⟩

end Variant

namespace Job

variable {suite : String} {compiler : Compiler} {options options' : ExpandOptions}

theorem programFor_ignore {policy : LookupPolicy} {language : Language} {program : String}
    (h : programFor compiler policy language = .ok program) :
    programFor compiler .ignore language = .ok program := by
  unfold programFor at h ⊢
  cases hcommand : compiler.command? language.tag with
  | some command => rw [hcommand] at h; exact h
  | none =>
      rw [hcommand] at h
      cases policy with
      | ignore => exact h
      | error => simp at h

/-! ## From a build to a suite -/

section

variable (h : options.RelaxesTo options')

include h

theorem buildJob_relaxed {setting : Setting} {job : Job}
    (hjob : buildJob setting compiler options = .ok job) :
    buildJob setting compiler options' = .ok job := by
  obtain ⟨language, program, flags, hlanguage, hprogram, hflags, rfl⟩ :=
    buildJob_eq_ok_iff.mp hjob
  have hlanguage' := h.language.ok (Language.detect setting.entry.files compiler)
    Language.detect_ignore hlanguage
  have hprogram' := h.language.ok (programFor compiler · language) programFor_ignore hprogram
  have hflags' := h.variants.ok (Variant.compose setting.entry.variants compiler.variants)
    Variant.compose_ignore hflags
  exact buildJob_eq_ok_iff.mpr ⟨language, program, flags, hlanguage', hprogram', hflags', rfl⟩

theorem Setting.buildJobs_relaxed {s : Setting} {builds : List Job}
    (hbuilds : s.buildJobs compiler options = .ok builds) :
    s.buildJobs compiler options' = .ok builds := by
  rw [Setting.buildJobs_eq_ok_iff] at hbuilds ⊢
  rcases hbuilds with hnone | ⟨hfiles, job, hjob, rfl⟩
  · exact Or.inl hnone
  · exact Or.inr ⟨hfiles, job, buildJob_relaxed h hjob, rfl⟩

theorem expandEntry_relaxed {name : String} {entry : TestEntry} {jobs : List Job}
    (hjobs : expandEntry suite name entry compiler options = .ok jobs) :
    expandEntry suite name entry compiler options' = .ok jobs := by
  rw [expandEntry_eq_ok_iff] at hjobs ⊢
  obtain ⟨dependencies, packages, builds, hdependencies, hpackages, hbuilds, rfl⟩ := hjobs
  have hdependencies' := h.dependencies.ok
    (Dependency.resolve suite (entry.dependencies.getD .null)) Dependency.resolve_ignore
    hdependencies
  exact ⟨dependencies, packages, builds, hdependencies', hpackages,
    Setting.buildJobs_relaxed h hbuilds, rfl⟩

theorem Expands.relaxed {es : Entries} {xs : List Expansion}
    (hxs : Expands suite compiler options es xs) : Expands suite compiler options' es xs := by
  induction hxs with
  | nil => exact .nil
  | hidden hname hhidden _ ih => exact .hidden hname hhidden ih
  | entry hname hshown hentry hjobs _ ih =>
      exact .entry hname hshown hentry (expandEntry_relaxed h hjobs) ih

end

end Job

/-! ## The faults of a lenient expansion -/

/-- The fault is a node of the wrong shape, in the suite or inside an entry. -/
def Fault.IsShape (fault : Fault) : Prop :=
  (∃ m, fault = .mismatch m) ∨ ∃ name cause, fault = .entry name cause

theorem bind_eq_error {ε α β : Type} {x : Except ε α} {f : α → Except ε β} {e : ε} :
    (x >>= f) = .error e ↔ x = .error e ∨ ∃ a, x = .ok a ∧ f a = .error e := by
  cases x with
  | error fault => simp [bind, Except.bind]
  | ok a => simp [bind, Except.bind]

theorem map_eq_error {ε α β : Type} {x : Except ε α} {f : α → β} {e : ε} :
    x.map f = .error e ↔ x = .error e := by
  cases x with
  | error fault => simp [Except.map]
  | ok a => simp [Except.map]

theorem Fault.IsShape.of_mapError {ε α : Type} {f : ε → Fault} (hf : ∀ e, (f e).IsShape)
    {x : Except ε α} {fault : Fault} (h : x.mapError f = .error fault) : fault.IsShape := by
  cases x with
  | error e =>
      obtain rfl : f e = fault := Except.error.inj h
      exact hf e
  | ok a => simp [Except.mapError] at h

theorem Fault.isShape_mismatch (m : Mismatch) : (Fault.mismatch m).IsShape := Or.inl ⟨m, rfl⟩

namespace Dependency

variable {suite : String} {fault : Fault}

theorem isShape_of_ofEntry {key value : Node}
    (h : ofEntry suite .ignore key value = .error fault) : fault.IsShape := by
  simp only [ofEntry] at h
  split at h
  · split at h
    · simp at h
    · obtain rfl := Except.error.inj h
      exact Fault.isShape_mismatch _
  · split at h
    · split at h
      · simp at h
      · obtain rfl := Except.error.inj h
        exact Fault.isShape_mismatch _
    · simp at h
    · simp at *

theorem isShape_of_ofEntries {es : Entries}
    (h : ofEntries suite .ignore es = .error fault) : fault.IsShape := by
  induction es with
  | nil => simp [ofEntries] at h
  | cons e es ih =>
      rw [ofEntries] at h
      rcases bind_eq_error.mp h with h | ⟨first, -, h⟩
      · exact isShape_of_ofEntry h
      · rcases bind_eq_error.mp h with h | ⟨others, -, h⟩
        · exact ih h
        · simp [pure, Except.pure] at h

theorem isShape_of_resolve {node : Node} (h : resolve suite node .ignore = .error fault) :
    fault.IsShape := by
  cases node with
  | null => simp [resolve] at h
  | mapping es => exact isShape_of_ofEntries h
  | bool | number | text | sequence | tagged =>
      obtain rfl := Except.error.inj h
      exact Fault.isShape_mismatch _

end Dependency

theorem Language.detect_ignore_ne_error {files : List String} {compiler : Compiler}
    {fault : Fault} : detect files compiler .ignore ≠ .error fault := by
  rw [detect]
  split <;> simp

theorem Variant.compose_ignore_ne_error {flags : Text.Dictionary} {requested : List String}
    {fault : Fault} : compose requested flags .ignore ≠ .error fault := by
  rw [compose, Ne, map_eq_error]
  induction requested with
  | nil => simp [flagsOf]
  | cons name requested ih =>
      unfold flagsOf
      cases flags.get? name with
      | some own =>
          intro h
          rcases bind_eq_error.mp h with h | ⟨others, -, h⟩
          · exact ih h
          · simp [pure, Except.pure] at h
      | none => exact ih

namespace Job

variable {suite : String} {compiler : Compiler} {fault : Fault}

theorem programFor_ignore_ne_error {language : Language} :
    programFor compiler .ignore language ≠ .error fault := by
  unfold programFor
  cases compiler.command? language.tag <;> simp

/-- A lenient build always comes about. -/
theorem buildJob_lenient_ne_error {setting : Setting} :
    buildJob setting compiler {} ≠ .error fault := by
  intro h
  rcases bind_eq_error.mp h with h | ⟨language, -, h⟩
  · exact Language.detect_ignore_ne_error h
  · rcases bind_eq_error.mp h with h | ⟨program, -, h⟩
    · exact programFor_ignore_ne_error h
    · rcases bind_eq_error.mp h with h | ⟨flags, -, h⟩
      · exact Variant.compose_ignore_ne_error h
      · simp [pure, Except.pure] at h

theorem isShape_of_ownPackages {entry : TestEntry} (h : ownPackages entry = .error fault) :
    fault.IsShape := by
  unfold ownPackages at h
  split at h
  · simp at h
  · simp at h
  · exact .of_mapError Fault.isShape_mismatch h

theorem isShape_of_expandEntry {name : String} {entry : TestEntry}
    (h : expandEntry suite name entry compiler {} = .error fault) : fault.IsShape := by
  rw [expandEntry_eq] at h
  rcases bind_eq_error.mp h with h | ⟨dependencies, -, h⟩
  · exact Dependency.isShape_of_resolve h
  · rcases bind_eq_error.mp h with h | ⟨packages, -, h⟩
    · exact isShape_of_ownPackages h
    · rcases bind_eq_error.mp h with h | ⟨builds, -, h⟩
      · unfold Setting.buildJobs at h
        split at h
        · simp at h
        · exact absurd (map_eq_error.mp h) buildJob_lenient_ne_error
      · simp [pure, Except.pure] at h

theorem isShape_of_expandEntries {es : Entries}
    (h : expandEntries suite compiler {} es = .error fault) : fault.IsShape := by
  induction es with
  | nil => simp [expandEntries] at h
  | cons e es ih =>
      obtain ⟨key, node⟩ := e
      rw [expandEntries] at h
      cases hname : key.text? with
      | none =>
          rw [hname] at h
          obtain rfl := Except.error.inj h
          exact Fault.isShape_mismatch _
      | some name =>
          rw [hname] at h
          dsimp only at h
          split at h
          · exact ih h
          · rcases bind_eq_error.mp h with h | ⟨entry, -, h⟩
            · rw [TestEntry.ofNode] at h
              split at h
              · exact .of_mapError (fun cause => Or.inr ⟨name, cause, rfl⟩) h
              · obtain rfl := Except.error.inj h
                exact Fault.isShape_mismatch _
            · rcases bind_eq_error.mp h with h | ⟨first, -, h⟩
              · exact isShape_of_expandEntry h
              · rcases bind_eq_error.mp h with h | ⟨others, -, h⟩
                · exact ih h
                · simp [pure, Except.pure] at h

/-- Relaxing the policies of an expansion that succeeds changes none of its
jobs. When no policy is strict an expansion fails over the shape of the document
and over nothing else. -/
theorem expandSuite_relaxed (suite : String) (document : Node) (compiler : Compiler) :
    (∀ options options' jobs, options.RelaxesTo options' →
      expandSuite suite document compiler options = .ok jobs →
      expandSuite suite document compiler options' = .ok jobs) ∧
    (∀ fault, expandSuite suite document compiler ⟨.ignore, .ignore, .ignore⟩ = .error fault →
      (∃ m, fault = .mismatch m) ∨ ∃ name cause, fault = .entry name cause) := by
  refine ⟨fun options options' jobs h hjobs => ?_, fun fault hfault => ?_⟩
  · cases document with
    | mapping es =>
        obtain ⟨xs, hxs, rfl⟩ := exists_expands hjobs
        exact (hxs.relaxed h).expandEntries
    | null | bool | number | text | sequence | tagged => exact hjobs
  · cases document with
    | mapping es => exact isShape_of_expandEntries hfault
    | null | bool | number | text | sequence | tagged =>
        obtain rfl := Except.error.inj hfault
        exact Fault.isShape_mismatch _

/-- A build that asks for its language, its command and a variant, and finds all
three, and a suite that is no mapping. -/
theorem expandSuite_relaxed_build :
    let suite := mapping [(text "t", mapping [(text "files", text "a.c"),
      (text "variants", text "debug")])]
    let compiler : Compiler := ⟨⟨[("cc", "gcc")]⟩, ⟨[("debug", "-g")]⟩⟩
    let jobs : List Job := [⟨"s/t", .build .cc, "gcc -g a.c -o t", [], {}⟩]
    expandSuite "s" suite compiler ⟨.error, .error, .error⟩ = .ok jobs ∧
      expandSuite "s" suite compiler ⟨.ignore, .error, .ignore⟩ = .ok jobs ∧
      ∃ m, expandSuite "s" (text "t") compiler ⟨.ignore, .ignore, .ignore⟩ =
        .error (.mismatch m) := by
  intro suite compiler jobs
  have hstrict : expandSuite "s" suite compiler ⟨.error, .error, .error⟩ = .ok jobs := by
    rfl
  have hrelaxes : ExpandOptions.RelaxesTo ⟨.error, .error, .error⟩ ⟨.ignore, .error, .ignore⟩ :=
    ⟨Or.inr rfl, Or.inl rfl, Or.inr rfl⟩
  refine ⟨hstrict, (expandSuite_relaxed "s" suite compiler).1 _ _ _ hrelaxes hstrict, ?_⟩
  rcases (expandSuite_relaxed "s" (text "t") compiler).2 _ rfl with ⟨m, hm⟩ | ⟨name, cause, hentry⟩
  · exact ⟨m, congrArg Except.error hm⟩
  · simp at hentry

end Job

end Trialbook

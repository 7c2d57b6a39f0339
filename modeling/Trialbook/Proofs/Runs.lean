import Trialbook.Proofs.CommandLine
import Trialbook.Proofs.Files
import Trialbook.Proofs.Reading

/-!
# A migration is all or nothing

A run decides what to do before it does anything, so a run that fails has printed
nothing and written nothing. What is left to show is what a migration does when it
succeeds. Whether it prints or writes, it comes to the same text
(`convert_eq_ok_iff`), and it has read its input from a file before it chooses a
place for the result. So that place is beside the input, whatever its path looks
like.
-/

namespace Trialbook.Command

open FileTree

/-! ## Reading from sources -/

namespace Loading

variable {α β : Type} {s s' : Sources}

theorem bind_eq_ok {x : Loading α} {f : α → Loading β} {b : β} :
    (x >>= f) s = .ok (b, s') ↔ ∃ a t, x s = .ok (a, t) ∧ f a t = .ok (b, s') := by
  show (x s >>= fun r => f r.1 r.2) = _ ↔ _
  rw [Trialbook.bind_eq_ok]
  exact ⟨fun ⟨⟨a, t⟩, h⟩ => ⟨a, t, h⟩, fun ⟨a, t, h⟩ => ⟨(a, t), h⟩⟩

theorem pure_eq_ok {a b : α} : (pure a : Loading α) s = .ok (b, s') ↔ a = b ∧ s = s' := by
  show Except.ok (a, s) = _ ↔ _
  rw [Except.ok.injEq, Prod.mk.injEq]

theorem throw_ne_ok {failure : Failure} {b : α} :
    (throw failure : Loading α) s ≠ .ok (b, s') := by
  show (Except.error failure : Except Failure (α × Sources)) ≠ _
  simp

theorem eq_ok_of_tryCatch {x : Loading α} {f : Failure → Failure} {a : α}
    (h : (tryCatch x fun failure => throw (f failure)) s = .ok (a, s')) : x s = .ok (a, s') := by
  replace h : (tryCatch (x s) fun failure => .error (f failure)) = Except.ok (a, s') := h
  cases hx : x s with
  | error failure =>
      rw [hx] at h
      simp [tryCatch, tryCatchThe, MonadExceptOf.tryCatch, Except.tryCatch] at h
  | ok r => rw [hx] at h; exact h

end Loading

/-- What is read leaves all files in place, standard input being used up. -/
def KeepsFiles {α : Type} (x : Loading α) : Prop :=
  ∀ ⦃s s' a⦄, x s = .ok (a, s') → s'.file = s.file

namespace KeepsFiles

variable {α β : Type}

theorem pure (a : α) : KeepsFiles (pure a : Loading α) := by
  intro s s' b h
  rw [(Loading.pure_eq_ok.mp h).2]

theorem throw (failure : Failure) : KeepsFiles (throw failure : Loading α) :=
  fun _ _ _ h => absurd h Loading.throw_ne_ok

theorem bind {x : Loading α} {f : α → Loading β} (hx : KeepsFiles x)
    (hf : ∀ a, KeepsFiles (f a)) : KeepsFiles (x >>= f) := by
  intro s s' b h
  obtain ⟨a, t, hfirst, hrest⟩ := Loading.bind_eq_ok.mp h
  rw [hf a hrest, hx hfirst]

theorem orFault (x : Except Fault α) : KeepsFiles (orFault x) := by
  cases x with
  | ok a => exact .pure a
  | error fault => exact .throw _

theorem document (path : String) : KeepsFiles (document path) := by
  intro s s' node h
  rw [Command.document] at h
  split at h
  · split at h
    · rw [← (Prod.mk.inj (Except.ok.inj h)).2]
    · simp at h
  · split at h
    · simp at h
    · split at h
      · rw [← (Prod.mk.inj (Except.ok.inj h)).2]
      · simp at h

theorem loadSettings (path : Option String) : KeepsFiles (loadSettings path) := by
  cases path with
  | none => exact .pure _
  | some path => exact (KeepsFiles.document path).bind fun _ => .orFault _

theorem loadTable [Pattern.Dialect] (path : Option String) : KeepsFiles (loadTable path) := by
  cases path with
  | none =>
      rw [Command.loadTable]
      exact KeepsFiles.orFault RuleTable.bundled
  | some path =>
      have hread : KeepsFiles (do
          Command.orFault (RuleTable.ofNode (← Command.document path))) :=
        (KeepsFiles.document path).bind fun _ => .orFault _
      intro s s' rules h
      rw [Command.loadTable] at h
      exact hread (Loading.eq_ok_of_tryCatch h)

end KeepsFiles

/-! ## A migration -/

/-- The text that a migration comes to, printed or written. -/
def migratedText [Pattern.Dialect] (settings : Settings) (c : Conversion) : Loading String := do
  let rules ← loadTable c.table
  migrated (← document c.input) c.kind rules
    (if c.strictCollisions then .error else settings.collisions)

/-- What a migration does with its text. -/
def emit (c : Conversion) (text : String) : Loading Effect := do
  if c.print then return .print text else return .write (← outputPath c.input) text

/-- What a migration with this text comes to. -/
def Conversion.Emits (c : Conversion) (text : String) (e : Effect) : Prop :=
  if c.print then e = .print text
  else isStandardInput c.input = false ∧ ∃ name, Text.fileName? c.input = some name ∧
    e = .write (Text.joinPath (Text.parentPath c.input) (outputName name)) text

theorem emit_eq_ok_iff {c : Conversion} {text : String} {s s' : Sources} {e : Effect}
    (hinput : (isStandardInput c.input && !c.print) = false) :
    emit c text s = .ok (e, s') ↔ s = s' ∧ c.Emits text e := by
  rw [emit, Conversion.Emits]
  split
  · rw [Loading.pure_eq_ok, and_comm, eq_comm (b := e)]
  · next hprint =>
      rw [Bool.not_eq_true] at hprint
      rw [hprint, Bool.not_false, Bool.and_true] at hinput
      rw [Loading.bind_eq_ok, outputPath]
      cases Text.fileName? c.input with
      | none => simp [Loading.throw_ne_ok]
      | some name =>
          simp only [Loading.pure_eq_ok, hinput, true_and, Option.some.injEq]
          constructor
          · rintro ⟨path, t, ⟨rfl, rfl⟩, rfl, rfl⟩
            exact ⟨rfl, name, rfl, rfl⟩
          · rintro ⟨rfl, _, rfl, rfl⟩
            exact ⟨_, s, ⟨rfl, rfl⟩, rfl, rfl⟩

section

variable [Pattern.Dialect]

theorem convert_eq (settings : Settings) (c : Conversion) :
    convert settings c =
      if isStandardInput c.input && !c.print then throw .inputWithoutPrint
      else migratedText settings c >>= emit c := by
  rw [convert]
  split
  · rfl
  · simp only [migratedText, bind_assoc]
    rfl

theorem convert_eq_ok_iff {settings : Settings} {c : Conversion} {s s' : Sources} {e : Effect} :
    convert settings c s = .ok (e, s') ↔
      ∃ text, migratedText settings c s = .ok (text, s') ∧ c.Emits text e := by
  rw [convert_eq]
  cases hinput : isStandardInput c.input && !c.print with
  | true =>
      rw [if_pos rfl]
      refine iff_of_false Loading.throw_ne_ok ?_
      rintro ⟨text, -, h⟩
      rw [Bool.and_eq_true, Bool.not_eq_true'] at hinput
      rw [Conversion.Emits, hinput.2, if_neg Bool.false_ne_true, hinput.1] at h
      exact Bool.false_ne_true h.1.symm
  | false =>
      rw [if_neg Bool.false_ne_true, Loading.bind_eq_ok]
      simp only [emit_eq_ok_iff hinput]
      constructor
      · rintro ⟨text, s'', htext, rfl, h⟩
        exact ⟨text, htext, h⟩
      · rintro ⟨text, htext, h⟩
        exact ⟨text, s', htext, rfl, h⟩

theorem exists_bytes_of_migratedText {settings : Settings} {c : Conversion} {s s' : Sources}
    {text : String} (h : migratedText settings c s = .ok (text, s'))
    (hinput : isStandardInput c.input = false) : ∃ bytes, s.file c.input = .ok bytes := by
  obtain ⟨rules, t, hrules, h⟩ := Loading.bind_eq_ok.mp h
  obtain ⟨node, t', hnode, -⟩ := Loading.bind_eq_ok.mp h
  rw [document, hinput, if_neg Bool.false_ne_true] at hnode
  split at hnode
  · simp at hnode
  · next bytes hbytes => exact ⟨bytes, KeepsFiles.loadTable _ hrules ▸ hbytes⟩

theorem plan_eq_ok_iff {arguments : List String} {settings : Option String} {c : Conversion}
    (harguments : Invocation.ofArguments? arguments = some ⟨settings, .convert c⟩)
    {s : Sources} {e : Effect} :
    plan arguments s = .ok e ↔
      ∃ known t text t', loadSettings settings s = .ok (known, t) ∧
        migratedText known c t = .ok (text, t') ∧ c.Emits text e := by
  have hrun : plan arguments s = .ok e ↔
      ∃ t, (loadSettings settings >>= fun known => convert known c) s = .ok (e, t) := by
    rw [plan, harguments]
    show ((loadSettings settings >>= fun known => convert known c) s).map Prod.fst = .ok e ↔ _
    cases (loadSettings settings >>= fun known => convert known c) s with
    | error failure => simp [Except.map]
    | ok r => simp [Except.map, Prod.ext_iff]
  rw [hrun]
  simp only [Loading.bind_eq_ok, convert_eq_ok_iff]
  constructor
  · rintro ⟨t', known, t, hknown, text, htext, h⟩
    exact ⟨known, t, text, t', hknown, htext, h⟩
  · rintro ⟨known, t, text, t', hknown, htext, h⟩
    exact ⟨t', known, t, hknown, text, htext, h⟩

/-- What a migration does comes with a text, which the same migration prints if it is
asked to. -/
theorem exists_text_of_plan {arguments : List String} {settings : Option String} {c : Conversion}
    (harguments : Invocation.ofArguments? arguments = some ⟨settings, .convert c⟩)
    {s : Sources} {e : Effect} (h : plan arguments s = .ok e) :
    ∃ text, c.Emits text e ∧
      (isStandardInput c.input = false → ∃ bytes, s.file c.input = .ok bytes) ∧
      ∀ arguments', Invocation.ofArguments? arguments' =
          some ⟨settings, .convert { c with print := true }⟩ →
        plan arguments' s = .ok (.print text) := by
  obtain ⟨known, t, text, t', hknown, htext, hemits⟩ := (plan_eq_ok_iff harguments).mp h
  refine ⟨text, hemits, fun hinput => ?_, fun arguments' harguments' => ?_⟩
  · obtain ⟨bytes, hbytes⟩ := exists_bytes_of_migratedText htext hinput
    exact ⟨bytes, KeepsFiles.loadSettings _ hknown ▸ hbytes⟩
  · refine (plan_eq_ok_iff harguments').mpr ⟨known, t, text, t', hknown, htext, ?_⟩
    rw [Conversion.Emits, if_pos rfl]

end

/-! ## A run -/

theorem Failure.exitCode_ne_zero (failure : Failure) : failure.exitCode ≠ 0 := by
  cases failure <;> simp [exitCode]

/-- A file that can be read is one that its path leads to. -/
theorem exists_follow_of_file {files : FileTree} {input : ByteArray} {path : String}
    {bytes : ByteArray} (h : (Sources.ofTree files input).file path = .ok bytes) :
    ∃ here, files.follow (files.origin path) (steps path) = .ok (.file here bytes) := by
  replace h : (files.read path).mapError ReadFailure.message = .ok bytes := h
  rw [mapError_eq_ok, FileTree.read] at h
  split at h
  · simp at h
  · split at h
    · simp at h
    · split at h
      · next here content hfollow =>
          split at h
          · simp at h
          · exact ⟨here, Except.ok.inj h ▸ hfollow⟩
      · simp at h
      · simp at h

section

variable [Pattern.Dialect] {arguments : List String} {files : FileTree} {input : ByteArray}

/-- A run that fails has done nothing. -/
theorem outcome_of_exitCode_ne_zero (h : (outcome arguments files input).exitCode ≠ 0) :
    (outcome arguments files input).output = "" ∧
      (outcome arguments files input).files = files := by
  rw [outcome] at h ⊢
  split at h
  · exact ⟨rfl, rfl⟩
  · exact absurd rfl h
  · split at h
    · exact absurd rfl h
    · exact ⟨rfl, rfl⟩

theorem exists_plan_of_exitCode_eq_zero (h : (outcome arguments files input).exitCode = 0) :
    ∃ e, plan arguments (.ofTree files input) = .ok e := by
  rw [outcome] at h
  split at h
  · exact absurd h (Failure.exitCode_ne_zero _)
  · next hplan => exact ⟨_, hplan⟩
  · next hplan => exact ⟨_, hplan⟩

theorem outcome_of_print {text : String}
    (h : plan arguments (.ofTree files input) = .ok (.print text)) :
    outcome arguments files input = ⟨text, none, files⟩ := by
  rw [outcome, h]

theorem write?_of_plan {path text : String}
    (h : plan arguments (.ofTree files input) = .ok (.write path text))
    (hcode : (outcome arguments files input).exitCode = 0) :
    files.write? path text.toUTF8 = some (outcome arguments files input).files := by
  cases hwrite : files.write? path text.toUTF8 with
  | none =>
      have hrun : outcome arguments files input = ⟨"", some (.unwritable path), files⟩ := by
        simp only [outcome, h, hwrite]
      rw [hrun] at hcode
      exact absurd hcode (Failure.exitCode_ne_zero (.unwritable path))
  | some after => simp only [outcome, h, hwrite]

end

theorem outputName_ne_empty (name : String) : outputName name ≠ "" := by
  simp [outputName]

theorem notMem_outputName {name : String} (h : '/' ∉ name.toList) :
    '/' ∉ (outputName name).toList := by
  simpa [outputName, String.toList_append] using h

/-- What is written goes beside the input, and nothing else changes. -/
theorem exists_of_write? {files after : FileTree} {input : ByteArray} {c : Conversion}
    {name text : String} (hname : Text.fileName? c.input = some name) {bytes : ByteArray}
    (hbytes : (Sources.ofTree files input).file c.input = .ok bytes)
    (h : files.write? (Text.joinPath (Text.parentPath c.input) (outputName name)) text.toUTF8 =
      some after) :
    ∃ above,
      files.follow (files.origin c.input) (steps c.input) = .ok (.file (above ++ [name]) bytes) ∧
      after.get? (above ++ [outputName name]) = some text.toUTF8 ∧
      ∀ other, other ≠ above ++ [outputName name] → after.get? other = files.get? other := by
  obtain ⟨here, hfollow⟩ := exists_follow_of_file hbytes
  obtain ⟨above, name', rfl, hname', hslash, hbeside⟩ := exists_beside hfollow
  obtain rfl : name' = name := Option.some.inj (hname'.symm.trans hname)
  obtain ⟨hlast, habove⟩ := hbeside _ (notMem_outputName hslash) (outputName_ne_empty _)
  obtain ⟨above', last, hlast', habove', hself, hothers⟩ := FileTree.exists_of_write? h
  obtain rfl := Option.some.inj (hlast.symm.trans hlast')
  obtain rfl := Location.directory.inj (Except.ok.inj (habove.symm.trans habove'))
  exact ⟨above, hfollow, hself, hothers⟩

/-- A run that fails prints nothing and leaves every file as it is. A migration that
succeeds either prints its text and leaves every file as it is, or writes the text to
the file beside its input that has the input's name with `new-` in front, and leaves
every other file as it is. The same command line with the option to print prints that
text. -/
theorem run_all_or_nothing [Pattern.Dialect] (arguments : List String) (files : FileTree)
    (input : ByteArray) :
    ((outcome arguments files input).exitCode ≠ 0 →
      (outcome arguments files input).output = "" ∧
        (outcome arguments files input).files = files) ∧
    ∀ settings c, Invocation.ofArguments? arguments = some ⟨settings, .convert c⟩ →
      (outcome arguments files input).exitCode = 0 →
      (c.print = true → (outcome arguments files input).files = files) ∧
      (c.print = false → ∃ front rest text above name content,
        arguments = front ++ "convert" :: rest ∧
        outcome (front ++ "convert" :: "--stdout" :: rest) files input = ⟨text, none, files⟩ ∧
        (∀ arguments', Invocation.ofArguments? arguments' =
            some ⟨settings, .convert { c with print := true }⟩ →
          outcome arguments' files input = ⟨text, none, files⟩) ∧
        files.follow (files.origin c.input) (steps c.input) =
          .ok (.file (above ++ [name]) content) ∧
        (outcome arguments files input).files.get? (above ++ ["new-" ++ name]) =
          some text.toUTF8 ∧
        ∀ other, other ≠ above ++ ["new-" ++ name] →
          (outcome arguments files input).files.get? other = files.get? other) := by
  refine ⟨outcome_of_exitCode_ne_zero, fun settings c harguments hcode => ?_⟩
  obtain ⟨e, hplan⟩ := exists_plan_of_exitCode_eq_zero hcode
  obtain ⟨text, hemits, hread, hprints⟩ := exists_text_of_plan harguments hplan
  constructor
  · intro hprint
    rw [Conversion.Emits, if_pos hprint] at hemits
    rw [outcome_of_print (hemits ▸ hplan)]
  · intro hprint
    rw [Conversion.Emits, if_neg (by simp [hprint])] at hemits
    obtain ⟨hinput, name, hname, rfl⟩ := hemits
    obtain ⟨bytes, hbytes⟩ := hread hinput
    obtain ⟨front, rest, hfront, hinserted⟩ := Invocation.exists_printing harguments hprint
    obtain ⟨above, hfollow, hself, hothers⟩ :=
      exists_of_write? hname hbytes (write?_of_plan hplan hcode)
    exact ⟨front, rest, text, above, name, bytes, hfront,
      outcome_of_print (hprints _ hinserted), fun arguments' h => outcome_of_print (hprints _ h),
      hfollow, hself, hothers⟩

/-- Two files that are not below the directory in which a run starts. -/
def elsewhere : FileTree :=
  { FileTree.ofList [("d/a", "- x"), ("t", "{}")] with start := ["home", "u"] }

/-- A migration whose input has a path from the root and one whose input has a path
upwards, each with a detour, and one from standard input with no place to go to. -/
theorem run_all_or_nothing_beside :
    (∃ text, (outcome ["convert", "-k", "te", "--scheme=/t", "/d/../d/./a"] elsewhere
        ByteArray.empty).files.get? ["d", "new-a"] = some text.toUTF8 ∧
      outcome ["convert", "--stdout", "-k", "te", "--scheme=/t", "/d/../d/./a"] elsewhere
        ByteArray.empty = ⟨text, none, elsewhere⟩) ∧
    (∃ text : String, (outcome ["convert", "-k", "te", "-s", "../../t", "../.././d/a"] elsewhere
        ByteArray.empty).files.get? ["d", "new-a"] = some text.toUTF8) ∧
    (outcome ["convert", "-k", "te", "-s", "/t", "-"] elsewhere "x".toUTF8).exitCode ≠ 0 ∧
    (outcome ["convert", "-k", "te", "-s", "/t", "-"] elsewhere "x".toUTF8).output = "" := by
  have hrefused : (outcome ["convert", "-k", "te", "-s", "/t", "-"] elsewhere
      "x".toUTF8).exitCode ≠ 0 := by decide +kernel
  have hplace : ∀ {path : String} {above : List String} {name : String} {content : ByteArray},
      elsewhere.follow (elsewhere.origin path) (steps path) =
        .ok (.file (above ++ [name]) content) →
      elsewhere.follow (elsewhere.origin path) (steps path) =
        .ok (.file ["d", "a"] "- x".toUTF8) → above ++ ["new-" ++ name] = ["d", "new-a"] := by
    intro path above name content hfollow hinput
    obtain ⟨hnames, -⟩ := Location.file.inj (Except.ok.inj (hfollow.symm.trans hinput))
    obtain ⟨rfl, hname⟩ := List.append_inj' (hnames.trans (by rfl : _ = ["d"] ++ ["a"])) rfl
    rw [(List.cons.inj hname).1]
    rfl
  obtain ⟨_, _, text, above, name, _, -, -, hprints, hfollow, hwritten, -⟩ :=
    ((run_all_or_nothing ["convert", "-k", "te", "--scheme=/t", "/d/../d/./a"] elsewhere
      ByteArray.empty).2 none ⟨.te, some "/t", false, false, "/d/../d/./a"⟩
      (by decide +kernel) (by decide +kernel)).2 rfl
  obtain ⟨_, _, up, above', name', _, -, -, -, hfollow', hwritten', -⟩ :=
    ((run_all_or_nothing ["convert", "-k", "te", "-s", "../../t", "../.././d/a"] elsewhere
      ByteArray.empty).2 none ⟨.te, some "../../t", false, false, "../.././d/a"⟩
      (by decide +kernel) (by decide +kernel)).2 rfl
  rw [hplace hfollow rfl] at hwritten
  rw [hplace hfollow' rfl] at hwritten'
  exact ⟨⟨text, hwritten, hprints _ (by decide +kernel)⟩, ⟨up, hwritten'⟩, hrefused,
    ((run_all_or_nothing _ _ _).1 hrefused).1⟩

end Trialbook.Command

import Trialbook.Job.Dependency
import Trialbook.Job.Detection
import Trialbook.Job.Entry
import Trialbook.Job.Variant

/-!
# Jobs

An entry yields one build job if it has files, and one run job for each
combination of the values of its axes if it runs. Every job begins with the
commands that make its packages available.
-/

namespace Trialbook

open Text (Dictionary)

/-- What a job does. -/
inductive JobKind where
  | build (language : Language)
  | run
  deriving DecidableEq, Repr

/-- A job. -/
structure Job where
  id : String
  kind : JobKind
  command : String
  dependsOn : List String
  /-- The value of each axis. -/
  axes : Dictionary
  deriving DecidableEq, Repr

namespace Job

/-- A value for each axis, in order. -/
abbrev Combination := List (String × String)

/-- Every combination of values, the first axis varying slowest. -/
def combinations : List Axis → List Combination
  | [] => [[]]
  | axis :: rest =>
    axis.values.flatMap fun value => (combinations rest).map ((axis.name, value) :: ·)

/-- Words with a space between them, empty ones left out. -/
def joinWords (words : List String) : String :=
  " ".intercalate (words.filter fun w => !w.isEmpty)

/-- A command line behind the commands that precede it, one a line. -/
def withPreamble (preamble : List String) (line : String) : String :=
  if preamble.isEmpty then line else "\n".intercalate preamble ++ "\n" ++ line

/-- The commands that make packages available. -/
def preambleOf (directives : List Directive) : List String :=
  (directives.map fun d => d.emit true true).filter fun s => !s.isEmpty

/-- What distinguishes the name of a run from that of its entry. -/
def suffix (combination : Combination) : String :=
  String.join (combination.map fun (axis, value) => "_" ++ axis ++ value)

/-- The assignments that tell a run its values. -/
def environment (combination : Combination) : String :=
  " ".intercalate (combination.map fun (axis, value) => Unicode.toUpper axis ++ "=" ++ value)

/-- What the jobs of one entry have in common. -/
structure Setting where
  /-- The name of the entry. -/
  name : String
  /-- The qualified name of the entry. -/
  id : String
  entry : TestEntry
  preamble : List String
  /-- The entries that the entry depends on. -/
  tests : List String

namespace Setting

/-- The name of what the entry builds. -/
def binary (s : Setting) : String := s.entry.binary.getD s.name

/-- The name of the build job. It is the entry's own unless the entry runs as
well. -/
def buildId (s : Setting) : String := if s.entry.run.isSome then s.id ++ ".build" else s.id

/-- The names of the build jobs that a run waits for. -/
def builds (s : Setting) : List String := if s.entry.files.isEmpty then [] else [s.buildId]

/-- The build job, given the language, the compiler's command and the flags of
the variants. -/
def build (s : Setting) (language : Language) (program variantFlags : String) : Job where
  id := s.buildId
  kind := .build language
  command := withPreamble s.preamble <| joinWords
    [program, s.entry.cflags.getD "", variantFlags, " ".intercalate s.entry.files,
      "-o " ++ s.binary, s.entry.ldflags.getD ""]
  dependsOn := s.tests
  axes := {}

/-- The run job of a combination. -/
def run (s : Setting) (spec : RunSpec) (combination : Combination) : Job where
  id := s.id ++ suffix combination
  kind := .run
  command := withPreamble s.preamble <| joinWords
    [environment combination, spec.program.getD ("./" ++ s.binary), spec.args.getD ""]
  dependsOn := s.builds ++ s.tests
  axes := .ofList combination

/-- The run jobs. -/
def runs (s : Setting) : List Job :=
  match s.entry.run with
  | none => []
  | some spec => (combinations spec.axes).map (s.run spec)

end Setting

/-- The command that builds in a language. Without one the language's tag takes
its place, or it is a fault. -/
def programFor (compiler : Compiler) (policy : LookupPolicy) (language : Language) :
    Except Fault String :=
  match compiler.command? language.tag, policy with
  | some program, _ => .ok program
  | none, .ignore => .ok language.tag
  | none, .error => .error (.unsupportedLanguages [language])

/-- The build job of an entry with files. -/
def buildJob (setting : Setting) (compiler : Compiler) (options : ExpandOptions) :
    Except Fault Job := do
  let language ← Language.detect setting.entry.files compiler options.language
  let program ← programFor compiler options.language language
  let flags ← Variant.compose setting.entry.variants compiler.variants options.variants
  return setting.build language program flags

/-- The packages that an entry declares for itself. -/
def ownPackages (entry : TestEntry) : Except Fault (List Directive) :=
  match entry.packages with
  | none | some .null => .ok []
  | some node => (Directive.identify node).mapError .mismatch

/-- The jobs of an entry. -/
def expandEntry (suite name : String) (entry : TestEntry) (compiler : Compiler)
    (options : ExpandOptions) : Except Fault (List Job) := do
  let dependencies ←
    Dependency.resolve suite (entry.dependencies.getD .null) options.dependencies
  let packages ← ownPackages entry
  let setting : Setting := {
    name, id := Dependency.qualify suite name, entry
    preamble := preambleOf (packages ++ dependencies.filterMap Dependency.directive?)
    tests := dependencies.filterMap Dependency.testId? }
  let builds ←
    if entry.files.isEmpty then pure [] else (buildJob setting compiler options).map ([·])
  return builds ++ setting.runs

/-- The jobs of the entries of a suite, in order. Keys that begin with a dot
hold what entries refer to and are none themselves. -/
def expandEntries (suite : String) (compiler : Compiler) (options : ExpandOptions) :
    Entries → Except Fault (List Job)
  | [] => .ok []
  | (key, node) :: rest =>
    match key.text? with
    | none => .error (.mismatch (.ofNode suite "string entry names" key))
    | some name =>
      if name.toList.head? = some '.' then expandEntries suite compiler options rest
      else do
        let entry ← TestEntry.ofNode name node
        let jobs ← expandEntry suite name entry compiler options
        let others ← expandEntries suite compiler options rest
        return jobs ++ others

/-- The jobs of a suite. -/
def expandSuite (suite : String) (document : Node) (compiler : Compiler)
    (options : ExpandOptions) : Except Fault (List Job) :=
  match document with
  | .mapping entries => expandEntries suite compiler options entries
  | node => .error (.mismatch (.ofNode suite "mapping" node))

end Job

end Trialbook

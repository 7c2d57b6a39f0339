import Trialbook.Command.Argument
import Trialbook.Migration

/-!
# What the command line asks for

The program migrates a document or expands a suite. Both take a settings file,
which may be named before or behind the command; named in both places, the latter
counts.
-/

namespace Trialbook.Command

/-- A migration to run. -/
structure Conversion where
  kind : DocumentKind
  /-- The file with the rule table, unless the bundled one is used. -/
  table : Option String
  /-- The result is printed and not written to a file. -/
  print : Bool
  strictCollisions : Bool
  input : String
  deriving DecidableEq, Repr

/-- An expansion to run. -/
structure Expansion where
  compiler : String
  /-- The name of the suite, unless its file names it. -/
  suiteName : Option String
  strictVariants : Bool
  strictDependencies : Bool
  strictLanguage : Bool
  suite : String
  deriving DecidableEq, Repr

/-- What to do. -/
inductive Task where
  | convert (conversion : Conversion)
  | expand (expansion : Expansion)
  deriving DecidableEq, Repr

/-- A complete command line. -/
structure Invocation where
  settings : Option String
  task : Task
  deriving DecidableEq, Repr

/-- The paths of all documents that a run may read. -/
def Invocation.paths (i : Invocation) : List String :=
  i.settings.toList ++
    match i.task with
    | .convert c => c.table.toList ++ [c.input]
    | .expand e => [e.compiler, e.suite]

/-- The kind with a name. -/
def kindOfName? (name : String) : Option DocumentKind :=
  [DocumentKind.compiler, .runtime, .environment, .te].find? fun kind => kind.name == name

/-- The option for the settings file. -/
def settingsOption : OptionSpec := ⟨"config", none, true⟩

/-- The options of a migration. -/
def conversionOptions : List OptionSpec :=
  [⟨"kind", some 'k', true⟩, ⟨"scheme", some 's', true⟩, ⟨"stdout", none, false⟩,
    ⟨"strict-collisions", none, false⟩, settingsOption]

/-- The options of an expansion. -/
def expansionOptions : List OptionSpec :=
  [⟨"compiler", none, true⟩, ⟨"namespace", none, true⟩, ⟨"strict-variants", none, false⟩,
    ⟨"strict-deps", none, false⟩, ⟨"strict-language", none, false⟩, settingsOption]

namespace Arguments

/-- The name of a file, which may not be empty. -/
def fileName? (name : String) : Option String := if name.isEmpty then none else some name

/-- The file that an option names, if the option is given. -/
def file? (a : Arguments) (option : String) : Option (Option String) :=
  match a.get? option with
  | none => some none
  | some name => (fileName? name).map some

/-- The file that is the only word. -/
def onlyFile? (a : Arguments) : Option String :=
  match a.words with
  | [name] => fileName? name
  | _ => none

/-- The migration that the arguments ask for. -/
def conversion? (a : Arguments) : Option Conversion := do
  let kind ← kindOfName? (← a.get? "kind")
  return {
    kind, table := ← a.file? "scheme", print := a.has "stdout"
    strictCollisions := a.has "strict-collisions", input := ← a.onlyFile? }

/-- The expansion that the arguments ask for. -/
def expansion? (a : Arguments) : Option Expansion := do
  let compiler ← fileName? (← a.get? "compiler")
  return {
    compiler, suiteName := a.get? "namespace"
    strictVariants := a.has "strict-variants", strictDependencies := a.has "strict-deps"
    strictLanguage := a.has "strict-language", suite := ← a.onlyFile? }

end Arguments

/-- The arguments of a command, and the task they amount to. -/
def taskOf? (command : String) (rest : List String) : Option (Arguments × Task) :=
  match command with
  | "convert" => do
    let (a, _) ← Arguments.read? conversionOptions false rest {}
    return (a, .convert (← a.conversion?))
  | "expand" => do
    let (a, _) ← Arguments.read? expansionOptions false rest {}
    return (a, .expand (← a.expansion?))
  | _ => none

/-- The command line of the given arguments. -/
def Invocation.ofArguments? (arguments : List String) : Option Invocation := do
  let (before, rest) ← Arguments.read? [settingsOption] true arguments {}
  let command ← rest.head?
  let (behind, task) ← taskOf? command (rest.drop 1)
  let outer ← before.file? settingsOption.name
  let inner ← behind.file? settingsOption.name
  return { settings := inner.or outer, task }

end Trialbook.Command

import Trialbook.Command.FileTree
import Trialbook.Command.Invocation
import Trialbook.Job.Listing
import Trialbook.Pattern.Standard
import Trialbook.Yaml.Printer
import Trialbook.Yaml.Reader

/-!
# Running a command

A run first reads everything it needs, in a fixed order, and then does one thing:
it prints a text, or writes a text to a file and says so. What fails before that
leaves no trace.
-/

namespace Trialbook.Command

/-- Where a run finds what it reads. -/
structure Sources where
  /-- The content of a file, or why it cannot be read. -/
  file : String → Except String ByteArray
  /-- What standard input still holds. -/
  input : ByteArray

/-- What a run does when it has succeeded. -/
inductive Effect where
  | print (text : String)
  | write (path text : String)
  deriving DecidableEq, Repr

/-- Why a run fails. -/
inductive Failure where
  /-- The command line is none of the program's. -/
  | misuse
  /-- A path goes through a tagged null, which stops the program. -/
  | aborted
  | fault (cause : Fault)
  /-- The rule table in a file cannot be read or used. -/
  | ruleTable (path : String)
  /-- The result has a tag directly under another. -/
  | nestedTags
  /-- A result that comes from standard input has no file to go to. -/
  | inputWithoutPrint
  /-- A path that names no file. -/
  | noFileName (path : String)
  /-- Nothing names the suite. -/
  | noSuiteName
  /-- A file that cannot be written. -/
  | unwritable (path : String)
  deriving Repr

namespace Failure

/-- The exit code of a failure. -/
def exitCode : Failure → Nat
  | misuse => 2
  | aborted => 101
  | _ => 1

/-- The wording of a failure, of those that have one. -/
def message? : Failure → Option String
  | misuse | aborted => none
  | fault cause => some cause.message
  | ruleTable path => some ("load rule table " ++ path)
  | nestedTags => some "serializing nested enums in YAML is not supported yet"
  | inputWithoutPrint => some "reading from standard input requires --stdout"
  | noFileName path => some ("input path " ++ path ++ " has no file name")
  | noSuiteName => some "suite path has no usable file stem; pass --namespace"
  | unwritable path => some ("write " ++ path)

end Failure

/-- Reading from sources, which may fail. -/
abbrev Loading := StateT Sources (Except Failure)

/-- Whether a path stands for standard input. -/
def isStandardInput (path : String) : Bool := Text.pathComponents path == [.name "-"]

/-- The document at a path. Standard input is used up by it. -/
def document (path : String) : Loading Node := fun sources =>
  if isStandardInput path then
    match Yaml.readBytes path sources.input with
    | .ok node => .ok (node, { sources with input := ByteArray.empty })
    | .error e => .error (.fault e)
  else
    match sources.file path with
    | .error reason => .error (.fault (.unreadable path reason))
    | .ok bytes =>
      match Yaml.readBytes path bytes with
      | .ok node => .ok (node, sources)
      | .error e => .error (.fault e)

/-- A failure of the library as one of the run. -/
def orFault {α : Type} : Except Fault α → Loading α
  | .ok a => pure a
  | .error e => throw (.fault e)

/-- The settings in a file, or the lenient ones. -/
def loadSettings : Option String → Loading Settings
  | none => pure {}
  | some path => do orFault ((Settings.ofNode (← document path)).mapError (.settings path))

/-- The rules of the table in a file, whatever is wrong with it being told as one. -/
def loadTable [Pattern.Dialect] : Option String → Loading RuleTable
  | none => orFault RuleTable.bundled
  | some path =>
    tryCatch (do orFault (RuleTable.ofNode (← document path))) fun _ => throw (.ruleTable path)

/-- The name that a migrated document's file gets. -/
def outputName (name : String) : String := "new-" ++ name

/-- Where a migrated document goes: into the directory it comes from. -/
def outputPath (input : String) : Loading String :=
  match Text.fileName? input with
  | some name => pure (Text.joinPath (Text.parentPath input) (outputName name))
  | none => throw (.noFileName input)

/-- A migrated document as text. -/
def migrated (document : Node) (kind : DocumentKind) (rules : RuleTable)
    (policy : CollisionPolicy) : Loading String :=
  match Migration.convert document kind rules policy with
  | .error (.taggedNull _) => throw .aborted
  | .error (.collision path) => throw (.fault (.pathCollision path))
  | .ok (result, _) =>
    match Yaml.print? result with
    | some text => pure text
    | none => throw .nestedTags

/-- A migration. -/
def convert [Pattern.Dialect] (settings : Settings) (c : Conversion) : Loading Effect := do
  if isStandardInput c.input && !c.print then throw .inputWithoutPrint
  let policy := if c.strictCollisions then .error else settings.collisions
  let rules ← loadTable c.table
  let text ← migrated (← document c.input) c.kind rules policy
  if c.print then return .print text else return .write (← outputPath c.input) text

/-- How strict an expansion is: as the settings say, or stricter. -/
def expandOptions (options : ExpandOptions) (e : Expansion) : ExpandOptions where
  variants := if e.strictVariants then .error else options.variants
  dependencies := if e.strictDependencies then .error else options.dependencies
  language := if e.strictLanguage then .error else options.language

/-- The name of the suite: as it is given, or as the suite's file is called. -/
def suiteName (e : Expansion) : Loading String :=
  match e.suiteName, isStandardInput e.suite, Text.fileStem? e.suite with
  | some name, _, _ => pure name
  | none, false, some name => pure name
  | none, _, _ => throw .noSuiteName

/-- An expansion. -/
def expand (settings : Settings) (e : Expansion) : Loading Effect := do
  let compiler ← orFault (Compiler.ofNode (← document e.compiler))
  let name ← suiteName e
  let suite ← document e.suite
  let jobs ← orFault (Job.expandSuite name suite compiler (expandOptions settings.expand e))
  return .print (Job.listing jobs ++ "\n")

/-- What a run does. -/
def effect [Pattern.Dialect] (i : Invocation) : Loading Effect := do
  let settings ← loadSettings i.settings
  match i.task with
  | .convert c => convert settings c
  | .expand e => expand settings e

/-- What a run that is called with the given arguments does, or why it fails. -/
def plan [Pattern.Dialect] (arguments : List String) (sources : Sources) :
    Except Failure Effect :=
  match Invocation.ofArguments? arguments with
  | none => .error .misuse
  | some i => (effect i).run' sources

/-- What a run leaves behind. -/
structure Outcome where
  output : String
  failure : Option Failure
  files : FileTree

/-- The exit code of a run. -/
def Outcome.exitCode (o : Outcome) : Nat := (o.failure.map Failure.exitCode).getD 0

/-- What is printed once a file has been written. -/
def written (path : String) : String := "Wrote " ++ path ++ "\n"

/-- The sources that some files and what is on standard input are. -/
def Sources.ofTree (files : FileTree) (input : ByteArray) : Sources where
  file path := (files.read path).mapError ReadFailure.message
  input := input

/-- What a run comes to with the given files and bytes on standard input. -/
def outcome [Pattern.Dialect] (arguments : List String) (files : FileTree) (input : ByteArray) :
    Outcome :=
  match plan arguments (.ofTree files input) with
  | .error failure => ⟨"", some failure, files⟩
  | .ok (.print text) => ⟨text, none, files⟩
  | .ok (.write path text) =>
    match files.write? path text.toUTF8 with
    | some files => ⟨written path, none, files⟩
    | none => ⟨"", some (.unwritable path), files⟩

/-- A run with the given files and a text on standard input. -/
def run [Pattern.Dialect] (arguments : List String) (files : FileTree) (input : String) :
    Outcome :=
  outcome arguments files input.toUTF8

end Trialbook.Command

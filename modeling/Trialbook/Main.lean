import Trialbook.Command.Run

/-!
# The program

The files that the command line names are read, the run is planned, and its
effect carried out.
-/

namespace Trialbook.Command

/-- The wording of the system's reason for not reading a file. -/
def systemReason : IO.Error → String
  | .noFileOrDirectory .. => ReadFailure.missing.message
  | .permissionDenied .. => ReadFailure.denied.message
  | .inappropriateType _ code _ =>
    if code = 21 then ReadFailure.isDirectory.message else ReadFailure.notDirectory.message
  | e => toString e

/-- The content of a file, or why it cannot be read. -/
def readFile (path : String) : IO (Except String ByteArray) := do
  try return .ok (← IO.FS.readBinFile path)
  catch e => return .error (systemReason e)

/-- What is left on standard input. -/
partial def readInput (input : IO.FS.Stream) (soFar : ByteArray) : IO ByteArray := do
  let chunk ← input.read 65536
  if chunk.isEmpty then return soFar else readInput input (soFar ++ chunk)

/-- What a run of the program finds. -/
def gather (i : Invocation) : IO Sources := do
  let (streams, files) := i.paths.partition isStandardInput
  let contents ← files.mapM fun path => return (path, ← readFile path)
  let input ←
    if streams.isEmpty then pure ByteArray.empty else readInput (← IO.getStdin) ByteArray.empty
  return ⟨fun path => (contents.lookup path).getD (.error ReadFailure.missing.message), input⟩

/-- A failure on standard error, and its exit code. -/
def report (failure : Failure) : IO UInt32 := do
  match failure.message? with
  | some message => IO.eprintln ("Error: " ++ message)
  | none => IO.eprintln "the arguments ask for nothing this program does"
  return failure.exitCode.toUInt32

/-- A run of the program. -/
def execute (arguments : List String) : IO UInt32 := do
  let sources ← match Invocation.ofArguments? arguments with
    | some i => gather i
    | none => pure ⟨fun _ => .error ReadFailure.missing.message, ByteArray.empty⟩
  match plan arguments sources with
  | .error failure => report failure
  | .ok (.print text) => IO.print text; return 0
  | .ok (.write path text) =>
    try
      IO.FS.writeFile path text
      IO.print (written path)
      return 0
    catch _ => report (.unwritable path)

end Trialbook.Command

def main (arguments : List String) : IO UInt32 := Trialbook.Command.execute arguments

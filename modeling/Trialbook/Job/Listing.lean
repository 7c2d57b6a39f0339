import Trialbook.Job.Expand
import Trialbook.Text.Json

/-!
# Jobs as text

The list of jobs that an expansion prints. A run has no language, and a job
without axes does not mention them.
-/

namespace Trialbook.Job

open Text (Json Dictionary)

/-- A list of strings. -/
def jsonStrings (texts : List String) : Json := .array (texts.map .string)

/-- A dictionary as a record. -/
def jsonDictionary (d : Dictionary) : Json :=
  .object (d.entries.map fun (key, value) => (key, .string value))

/-- A job as a record. -/
def toJson (job : Job) : Json :=
  let kind : List (String × Json) := match job.kind with
    | .build language => [("kind", .string "build"), ("language", .string language.tag)]
    | .run => [("kind", .string "run")]
  let axes := if job.axes.entries.isEmpty then [] else [("axes", jsonDictionary job.axes)]
  .object <|
    [("id", .string job.id)] ++ kind ++
      [("command", .string job.command), ("depends_on", jsonStrings job.dependsOn)] ++ axes

/-- The text of some jobs. -/
def listing (jobs : List Job) : String := (Json.array (jobs.map toJson)).toText

end Trialbook.Job

import Trialbook.Job.Compiler
import Trialbook.Settings
import Trialbook.Text.FilePath

/-!
# The language of a build

Files tell their languages by their extensions. A build takes the most preferred
language among them that the compiler has a command for.
-/

namespace Trialbook.Language

/-- The language of a file, if its extension is known. -/
def ofFile? (file : String) : Option Language := (Text.extension? file).bind ofExtension?

/-- The languages of some files, most preferred first. -/
def ofFiles (files : List String) : List Language :=
  byPreference.filter fun l => (files.filterMap ofFile?).contains l

/-- The language in which files without a known extension are built. -/
def default : Language := cc

/-- The language in which some files are built. -/
def detect (files : List String) (compiler : Compiler) (policy : LookupPolicy) :
    Except Fault Language :=
  let detected := ofFiles files
  match detected.find? fun l => compiler.supports l.tag with
  | some l => .ok l
  | none =>
    if detected.isEmpty || policy = .ignore then .ok default
    else .error (.unsupportedLanguages detected)

end Trialbook.Language

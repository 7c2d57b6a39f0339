import Trialbook.Fault
import Trialbook.Settings
import Trialbook.Text.Dictionary

/-!
# The flags of variants
-/

namespace Trialbook.Variant

open Text (Dictionary)

/-- The flags of the requested variants, in the order of the request. Unknown
variants have none, or are a fault. -/
def flagsOf (flags : Dictionary) (policy : LookupPolicy) :
    List String → Except Fault (List String)
  | [] => .ok []
  | name :: rest =>
    match flags.get? name, policy with
    | some f, _ => do
      let others ← flagsOf flags policy rest
      return if f.isEmpty then others else f :: others
    | none, .ignore => flagsOf flags policy rest
    | none, .error => .error (.unknownVariant name)

/-- The flags of the requested variants with spaces between them. -/
def compose (requested : List String) (flags : Dictionary) (policy : LookupPolicy) :
    Except Fault String :=
  (flagsOf flags policy requested).map (" ".intercalate ·)

end Trialbook.Variant

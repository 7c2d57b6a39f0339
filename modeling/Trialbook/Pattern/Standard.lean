import Trialbook.Pattern.Size

/-!
# The standard dialect

The dialect in which patterns are read where no other one is given. Names are looked
up in the tables of `Unicode`, and an automaton may take ten mebibytes. The limit is on
an estimate: `Tree.memory?` counts alternatives one by one.
-/

namespace Trialbook.Pattern

/-- The most bytes that an automaton may take. -/
def memoryLimit : Nat := 10 * 1024 * 1024

/-- The names of the standard dialect, with patterns of any size. -/
abbrev Dialect.unlimited : Dialect where
  named? := Unicode.named?
  valued? := Unicode.valued?
  fits _ := true

/-- The standard dialect. What has no meaning has no size, and is refused for that. -/
instance Dialect.standard : Dialect :=
  { unlimited with fits := fun tree => (@Tree.memory? unlimited tree).all (· ≤ memoryLimit) }

end Trialbook.Pattern

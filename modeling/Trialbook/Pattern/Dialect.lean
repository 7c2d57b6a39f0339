import Trialbook.Pattern.Tree
import Trialbook.Unicode.Lookup

/-!
# Dialects

The language of patterns leaves two things to the engine that runs them: which
names stand for sets of characters, which grows with the character database, and
how large a pattern may be. A `Dialect` answers both. What is said about patterns
here is said for every dialect.
-/

namespace Trialbook.Pattern

/-- What an engine settles about patterns. -/
class Dialect where
  /-- The characters that a bare name stands for, by its normalized form. -/
  named? : String → Option Unicode.PointSet
  /-- The characters for which a property has a value, both normalized. -/
  valued? : String → String → Option Unicode.PointSet
  /-- Whether a pattern is small enough to be searched for. -/
  fits : Tree → Bool

end Trialbook.Pattern

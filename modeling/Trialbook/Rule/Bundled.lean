import Trialbook.Rule.Table

/-!
# The bundled rule table

The table that migrates documents of the layout before 1.0. Language blocks of
a compiler collapse into one table of commands, iterators lose a level, shells
are merged, and the build section of a test entry dissolves into the entry. The
rules of the second pass name every place of the current layout, so that what
they do not match is reported.
-/

namespace Trialbook

namespace Rule.Bundled

/-- An entry that goes to one place. -/
def move (pattern destination : String) : Node × Node := (.text pattern, .text destination)

/-- A token and the fragment it stands for. -/
def token (name fragment : String) : Node × Node := (.text name, .text fragment)

/-- An entry that is dropped. -/
def drop (pattern : String) : Node × Node := (.text pattern, .null)

/-- An entry that stays where it is. -/
def keep (pattern : String) : Node × Node := move pattern pattern

/-- The tokens. -/
def tokens : Entries := [
  token "LANG" "cc|cxx|fc|f77|f90|f95|f03|f08",
  token "NAME" "[^.]+",
  token "ITER" "[^.]+",
  token "VAR" "[A-Za-z_][A-Za-z0-9_]*",
  token "SHELL" "bash|sh|zsh",
  token "PM" "spack|module",
  token "DEP" "test|<PM>",
  token "PHASE" "build|run",
  token "FIELD" "files|variants|cflags|ldflags|binary",
  token "RUNKEY" "program|args"]

/-- The rules of the first pass. -/
def modifiers : Entries := [
  move "compiler.<LANG>.program" "compiler.commands.<LANG>",
  drop "compiler.<LANG>.wrapper",
  move "compiler.variants.<NAME>.options" "compiler.variants.<NAME>.args",
  move "runtime.iterators.<ITER>.values" "runtime.iterate.<ITER>",
  drop "runtime.plugin",
  move "environment.<SHELL>.<VAR>" "environment.<VAR>",
  move "te.<NAME>.build.sources.<FIELD>" "te.<NAME>.<FIELD>",
  move "te.<NAME>.build.<FIELD>" "te.<NAME>.<FIELD>",
  move "te.<NAME>.<PHASE>.depends_on.<DEP>" "+te.<NAME>.depends_on.<DEP>",
  move "te.<NAME>.<PHASE>.package_manager.<PM>" "+te.<NAME>.package_manager.<PM>",
  move "te.<NAME>.run.iterate.<ITER>.values" "te.<NAME>.run.iterate.<ITER>"]

/-- The rules of the second pass. -/
def terminal : Entries := [
  keep "compiler.commands.<LANG>",
  keep "compiler.variants.<NAME>.args",
  keep "compiler.package_manager.<PM>",
  keep "runtime.program",
  keep "runtime.args",
  keep "runtime.iterate.<ITER>",
  keep "runtime.package_manager.<PM>",
  keep "environment.<VAR>",
  keep "te.<NAME>.<FIELD>",
  keep "te.<NAME>.depends_on.<DEP>",
  keep "te.<NAME>.package_manager.<PM>",
  keep "te.<NAME>.run.<RUNKEY>",
  keep "te.<NAME>.run.iterate.<ITER>"]

/-- The table. -/
def table : Node :=
  .mapping <|
    [(.text "__version", .number (.int 1)), (.text tokensKey, .mapping tokens),
      (.text modifiersKey, .mapping modifiers)] ++ terminal

end Rule.Bundled

/-- The rules of the bundled table. -/
def RuleTable.bundled [Pattern.Dialect] : Except Fault RuleTable :=
  RuleTable.ofNode Rule.Bundled.table

end Trialbook

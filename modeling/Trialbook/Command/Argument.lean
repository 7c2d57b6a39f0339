/-!
# Command lines

An argument is an option by its name or its letter, or a word. An option's value
stands behind an equals sign, directly behind its letter, or in the next argument
if that looks like a value. Behind two dashes everything is a word.
-/

namespace Trialbook.Command

/-- An option that a command knows. -/
structure OptionSpec where
  name : String
  letter : Option Char := none
  takesValue : Bool
  deriving DecidableEq, Repr

/-- An argument by its form. -/
inductive Argument where
  | named (name : String) (value : Option String)
  | lettered (letter : Char) (value : Option String)
  | separator
  | word (text : String)
  deriving DecidableEq, Repr

namespace Argument

/-- What stands behind the letter of an option, an equals sign aside. -/
def attached? : List Char → Option String
  | [] => none
  | '=' :: value => some (String.ofList value)
  | value => some (String.ofList value)

/-- The name of an option and what stands behind the first equals sign. -/
def ofName (cs : List Char) : Argument :=
  let name := String.ofList (cs.takeWhile (· != '='))
  match cs.dropWhile (· != '=') with
  | [] => named name none
  | _ :: value => named name (some (String.ofList value))

/-- The form of an argument. A dash alone is a word. -/
def ofText (text : String) : Argument :=
  match text.toList with
  | ['-', '-'] => separator
  | '-' :: '-' :: cs => ofName cs
  | '-' :: c :: cs => lettered c (attached? cs)
  | _ => word text

/-- Whether the argument may be the value of the option before it. -/
def isValue (text : String) : Bool :=
  match ofText text with
  | word _ => true
  | _ => false

end Argument

/-- Options with their values, and words, in order. An option without a value has
an empty one. -/
structure Arguments where
  options : List (String × String) := []
  words : List String := []
  deriving DecidableEq, Repr

namespace Arguments

/-- The value of an option. -/
def get? (a : Arguments) (name : String) : Option String := a.options.lookup name

/-- Whether an option is given. -/
def has (a : Arguments) (name : String) : Bool := (a.get? name).isSome

/-- One option more, unless it is there already. -/
def add? (a : Arguments) (name value : String) : Option Arguments :=
  if a.has name then none else some { a with options := a.options ++ [(name, value)] }

/-- An option that a command knows, by its name or its letter. -/
def spec? (specs : List OptionSpec) : Argument → Option OptionSpec
  | .named name _ => specs.find? fun s => s.name == name
  | .lettered letter _ => specs.find? fun s => s.letter == some letter
  | .separator | .word _ => none

/-- The value that stands in an option's own argument. -/
def ownValue? : Argument → Option String
  | .named _ value | .lettered _ value => value
  | .separator | .word _ => none

/-- The arguments with an option more, and whether the next argument is its value. -/
def addOption? (a : Arguments) (specs : List OptionSpec) (argument : Argument)
    (next : Option String) : Option (Arguments × Bool) := do
  let spec ← spec? specs argument
  match spec.takesValue, ownValue? argument with
  | false, none => return (← a.add? spec.name "", false)
  | false, some _ => none
  | true, some value => return (← a.add? spec.name value, false)
  | true, none => return (← a.add? spec.name (← next.filter Argument.isValue), true)

/-- Arguments with the given options, up to the first word if `upToWord` says so,
and what is left. -/
def read? (specs : List OptionSpec) (upToWord : Bool) :
    List String → Arguments → Option (Arguments × List String)
  | [], a => some (a, [])
  | text :: rest, a =>
    match Argument.ofText text with
    | .separator =>
      if upToWord then some (a, text :: rest) else some ({ a with words := a.words ++ rest }, [])
    | .word w =>
      if upToWord then some (a, text :: rest)
      else read? specs upToWord rest { a with words := a.words ++ [w] }
    | argument =>
      match a.addOption? specs argument rest.head?, rest with
      | none, _ => none
      | some (a, false), rest => read? specs upToWord rest a
      | some (a, true), _ :: rest => read? specs upToWord rest a
      | some (_, true), [] => none

end Arguments

end Trialbook.Command

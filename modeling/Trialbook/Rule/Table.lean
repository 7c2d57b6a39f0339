import Trialbook.Pattern.Search
import Trialbook.Rule.Token

/-!
# Rule tables

A rule table is a mapping from patterns of dotted paths to destinations. Its
tokens stand under one key, the rules of the structural first pass under
another, and all other keys are rules of the second pass, except those that
begin with two underscores, which are notes.

A destination is a path with placeholders for what the pattern's tokens
matched. No destination at all means that the path is dropped, several that its
value goes to each of them, and a plus sign in front that the value joins a
sequence.
-/

namespace Trialbook

open Text (Dictionary)

namespace Rule

/-- A destination. -/
structure Template where
  /-- Whether the value joins a sequence. -/
  append : Bool
  parts : List Piece
  deriving DecidableEq, Repr

namespace Template

/-- A destination from its text. -/
def ofText (text : String) : Template :=
  match text.toList with
  | '+' :: rest => ⟨true, Piece.scanFrom 0 rest⟩
  | cs => ⟨false, Piece.scanFrom 0 cs⟩

/-- One piece with what was captured for it. A placeholder for which nothing
was captured stays as it is. -/
def renderPiece (captured : String → Option String) (piece : Piece) : List Char :=
  match piece with
  | .char c => [c]
  | .reference name =>
    match captured name with
    | some text => text.toList
    | none => piece.written

/-- The path of a destination, with captured text in place of placeholders. -/
def render (t : Template) (captured : String → Option String) : String :=
  String.ofList (t.parts.flatMap (renderPiece captured))

end Template

end Rule

/-- A rule: the pattern as written, what it matches, and where a path that it
matches goes. Without destinations the path is dropped. -/
structure Rule where
  source : String
  pattern : Pattern
  destinations : List Rule.Template
  deriving DecidableEq, Repr

/-- The rules of one pass, in order. -/
abbrev RuleSet := List Rule

/-- The first rule whose pattern matches a path, with what it captured. -/
def RuleSet.find? : RuleSet → String → Option (Rule × Captures)
  | [], _ => none
  | rule :: rest, path =>
    match rule.pattern.search? path with
    | some captures => some (rule, captures)
    | none => RuleSet.find? rest path

/-- The rules of both passes. -/
structure RuleTable where
  modifiers : RuleSet
  terminal : RuleSet
  deriving DecidableEq, Repr

namespace Rule

/-- The characters that mean something in a pattern. -/
def isMeta (c : Char) : Bool := "\\.+*?()|[]\x7b\x7d^$#&-~".toList.contains c

/-- A character as a pattern that matches nothing else. -/
def escapeChar (c : Char) : List Char := if isMeta c then ['\\', c] else [c]

/-- The text of a rule's pattern after its pieces have been spelled out, given
the names that have a group already. The first placeholder of a name becomes a
group of that name and later ones plain groups. -/
def patternText (source : String) (tokens : Dictionary) :
    List String → List Piece → Except TableFault (List Char)
  | _, [] => .ok []
  | named, .char c :: rest => do
    return escapeChar c ++ (← patternText source tokens named rest)
  | named, .reference name :: rest =>
    match tokens.get? name with
    | none => .error (.undefinedToken source name)
    | some fragment => do
      let lead := if named.contains name then "(?:" else "(?P<" ++ name ++ ">"
      let further ← patternText source tokens (name :: named) rest
      return lead.toList ++ fragment.toList ++ ')' :: further

/-- The pattern of a rule, which matches whole paths only. -/
def compilePattern [Pattern.Dialect] (source : String) (tokens : Dictionary) :
    Except TableFault Pattern := do
  let body ← patternText source tokens [] (Piece.scan source)
  match Pattern.ofChars? ('^' :: (body ++ ['$'])) with
  | some pattern => return pattern
  | none => .error (.invalidRule source)

/-- The destinations in a list. -/
def targetItems (source : String) : List Node → Except TableFault (List Template)
  | [] => .ok []
  | .text s :: rest => (targetItems source rest).map (Template.ofText s :: ·)
  | item :: _ => .error (.destinationItem source item.shape)

/-- The destinations of a rule. -/
def targetsOf (source : String) : Node → Except TableFault (List Template)
  | .null => .ok []
  | .text s => .ok [Template.ofText s]
  | .sequence items => targetItems source items
  | node => .error (.destinations source node.shape)

/-- The key that holds the tokens. -/
def tokensKey : String := "__tokens"

/-- The key that holds the rules of the first pass. -/
def modifiersKey : String := "__modifiers"

/-- Whether a key is no rule. -/
def isNote (key : String) : Bool := "__".toList.isPrefixOf key.toList

/-- The rules among the entries of a mapping. -/
def compileAll [Pattern.Dialect] (tokens : Dictionary) : Entries → Except Fault RuleSet
  | [] => .ok []
  | (key, value) :: rest =>
    match key.text? with
    | none => .error (.mismatch (.ofNode "rule pattern" "string" key))
    | some source =>
      if isNote source then compileAll tokens rest
      else do
        let pattern ← (compilePattern source tokens).mapError .ruleTable
        let targets ← (targetsOf source value).mapError .ruleTable
        return ⟨source, pattern, targets⟩ :: (← compileAll tokens rest)

/-- The token declarations in the entries of a mapping. -/
def declarations : Dictionary → Entries → Except Mismatch Dictionary
  | tokens, [] => .ok tokens
  | tokens, (key, value) :: rest =>
    match key.text?, value.text? with
    | none, _ => .error (.ofNode tokensKey "string keys" key)
    | some name, none => .error (.ofNode (tokensKey ++ "." ++ name) "string" value)
    | some name, some fragment => declarations (tokens.insert name fragment) rest

/-- The mapping under a key of a table. None there, or null, means that it is
empty. -/
def section? (key : String) (table : Entries) : Except Mismatch Entries :=
  match Entries.get? key table with
  | none | some .null => .ok []
  | some (.mapping entries) => .ok entries
  | some node => .error (.ofNode key "mapping" node)

end Rule

namespace RuleTable

open Rule

variable [Pattern.Dialect]

/-- The rules of a table's mapping. -/
def ofEntries (table : Entries) : Except Fault RuleTable := do
  let declared ← (section? tokensKey table).mapError .mismatch
  let tokens ← (declarations {} declared).mapError .mismatch
  let tokens ← (resolveTokens tokens).mapError .ruleTable
  let modifiers ← (section? modifiersKey table).mapError .mismatch
  let modifiers ← compileAll tokens modifiers
  return ⟨modifiers, ← compileAll tokens table⟩

/-- The rules of a table. -/
def ofNode : Node → Except Fault RuleTable
  | .mapping table => ofEntries table
  | node => .error (.mismatch (.ofNode "rule table" "mapping" node))

end RuleTable

end Trialbook

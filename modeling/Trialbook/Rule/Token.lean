import Trialbook.Fault
import Trialbook.Pattern.Meaning
import Trialbook.Rule.Placeholder
import Trialbook.Text.Dictionary

/-!
# Tokens

A rule table names fragments of patterns. A fragment may refer to other tokens,
and what a reference stands for is put in its place as a group of its own. A
placeholder that no token answers to is plain text, and so is one that names a
group of the fragment.

References are followed depth first, tokens in the order of their names, so
that of several faults a table may have the first on that way is reported.
-/

namespace Trialbook.Rule

open Text (Dictionary)

/-- Whether a placeholder behind this text, last character first, names a group
and so refers to nothing. -/
def namesGroup : List Char → Bool
  | '?' :: _ => true
  | 'P' :: '?' :: _ => true
  | _ => false

/-- The references that a fragment makes, in order. -/
def referencesFrom (tokens : Dictionary) : List Char → List Piece → List String
  | _, [] => []
  | before, piece :: rest =>
    let further := referencesFrom tokens (piece.written.reverse ++ before) rest
    match piece with
    | .char _ => further
    | .reference name =>
      if tokens.contains name && !namesGroup before then name :: further else further

/-- The references that a fragment makes, in order. -/
def references (tokens : Dictionary) (fragment : String) : List String :=
  referencesFrom tokens [] (Piece.scan fragment)

/-- A fragment in the course of being spelled out: the text so far, what has
been read of the fragment, last character first, and the tokens known by now. -/
structure Expansion where
  text : String
  before : List Char
  done : Dictionary

/-- One piece more, given how to spell out a token. -/
def Expansion.add (tokens : Dictionary)
    (resolve : String → Dictionary → Except TableFault (String × Dictionary))
    (e : Expansion) (piece : Piece) : Except TableFault Expansion :=
  let before := piece.written.reverse ++ e.before
  let plain : Expansion := ⟨e.text ++ String.ofList piece.written, before, e.done⟩
  match piece with
  | .char _ => .ok plain
  | .reference name =>
    if tokens.contains name && !namesGroup e.before then
      (resolve name e.done).map fun (fragment, done) =>
        ⟨e.text ++ "(?:" ++ fragment ++ ")", before, done⟩
    else .ok plain

/-- A token spelled out, with the tokens that are known then. `around` are the
tokens that are being spelled out around this one, innermost last. -/
def resolveToken [Pattern.Dialect] (tokens : Dictionary) :
    Nat → List String → String → Dictionary → Except TableFault (String × Dictionary)
  | fuel, around, name, done =>
    match done.get? name with
    | some fragment => .ok (fragment, done)
    | none =>
      if around.contains name then .error (.tokenCycle (around ++ [name]))
      else
        match fuel with
        | 0 => .error (.tokenCycle (around ++ [name]))
        | fuel + 1 => do
          let pieces := Piece.scan ((tokens.get? name).getD "")
          let e ← pieces.foldlM
            (Expansion.add tokens (resolveToken tokens fuel (around ++ [name]))) ⟨"", [], done⟩
          if (Pattern.ofChars? e.text.toList).isNone then .error (.invalidToken name)
          else .ok (e.text, e.done.insert name e.text)

/-- Every token spelled out. -/
def resolveTokens [Pattern.Dialect] (tokens : Dictionary) : Except TableFault Dictionary :=
  tokens.keys.foldlM
    (fun done name => (resolveToken tokens tokens.keys.length [] name done).map (·.2)) {}

end Trialbook.Rule

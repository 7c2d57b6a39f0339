import Trialbook.Yaml.Token.Label
import Trialbook.Yaml.Token.Scalar

/-!
# From characters to tokens

Whatever may be a key is remembered until its colon comes or can come no more:
the colon must stand on the same line and not too far behind. When it comes, the
token of the key is put in front of what has been read since, and with it the
start of a mapping if the key stands deeper than everything around it.
-/

namespace Trialbook.Yaml

open Character (isBlank isBreak)
open Spot (gapAhead marker?)

/-- The beginning of something that may turn out to be a key. -/
structure KeyCandidate where
  /-- The number of tokens before it. -/
  position : Nat
  /-- It can be nothing but a key. -/
  required : Bool
  line : Nat
  column : Nat

/-- The farthest distance between a key and its colon. -/
def KeyCandidate.reach : Nat := 1024

/-- Whether a colon at the given place comes too late. -/
def KeyCandidate.isStale (k : KeyCandidate) (s : Spot) : Bool :=
  k.line < s.line || k.column + reach < s.column

/-- Tokens read so far and what the next one depends on. -/
structure Lexer where
  rest : List Spot
  /-- The tokens, latest first. -/
  tokens : List Token := []
  count : Nat := 0
  /-- The columns of the collections in block style around, innermost first. -/
  indents : List Nat := []
  /-- A key in block style may start here. -/
  keyAllowed : Bool := true
  candidate : Option KeyCandidate := none
  /-- The candidates left behind at the start of each collection in flow style
  around, innermost first. -/
  outer : List (Option KeyCandidate) := []

namespace Lexer

/-- Whether the next token stands inside a collection in flow style. -/
def inFlow (l : Lexer) : Bool := !l.outer.isEmpty

/-- The indentation of the innermost collection in block style. -/
def indent (l : Lexer) : Int :=
  match l.indents with
  | [] => -1
  | column :: _ => column

/-- A token in front of the latest `depth` tokens. -/
def insert (l : Lexer) (depth : Nat) (t : Token) : Lexer :=
  { l with tokens := l.tokens.insertIdx depth t, count := l.count + 1 }

/-- The next token. -/
def emit (l : Lexer) (t : Token) : Lexer :=
  { l with tokens := t :: l.tokens, count := l.count + 1 }

/-- The token that the next character is by itself. -/
def single (l : Lexer) (rest : List Spot) (t : Token) : Lexer := { l with rest }.emit t

/-- No candidate any more, which a required one does not allow. -/
def dropCandidate? (l : Lexer) : Option Lexer :=
  if l.candidate.any (·.required) then none else some { l with candidate := none }

/-- The next token may be a key, and must be one at the column of a mapping in
block style. -/
def offerKey? (l : Lexer) (s : Spot) : Option Lexer :=
  if l.keyAllowed then do
    let l ← l.dropCandidate?
    let required := !l.inFlow && l.indent == s.column
    return { l with candidate := some ⟨l.count, required, s.line, s.column⟩ }
  else some l

/-- A candidate, unless it has become stale. -/
def fresh? (s : Spot) : Option KeyCandidate → Option (Option KeyCandidate)
  | none => some none
  | some k => if !k.isStale s then some (some k) else if k.required then none else some none

/-- Stale candidates are forgotten. -/
def expire? (l : Lexer) (s : Spot) : Option Lexer := do
  return { l with candidate := ← fresh? s l.candidate, outer := ← l.outer.mapM (fresh? s) }

/-- The collections in block style that stand deeper than a column end. -/
def unroll (l : Lexer) (column : Int) : Lexer :=
  if l.inFlow then l
  else
    let ended := (l.indents.takeWhile fun (c : Nat) => column < c).length
    { l with
      tokens := List.replicate ended .blockEnd ++ l.tokens
      count := l.count + ended
      indents := l.indents.drop ended }

/-- A collection in block style starts at a column, if that is deeper than those
around, in front of the latest `depth` tokens. -/
def roll (l : Lexer) (column depth : Nat) (start : Token) : Lexer :=
  if !l.inFlow && l.indent < column then
    { l with indents := column :: l.indents }.insert depth start
  else l

/-- Spaces, comments and line ends, and whether a key may start behind them. A
tab where a key may start is none of these. -/
def gap (inFlow : Bool) : Bool → Bool → List Spot → Bool × List Spot
  | _, allowed, [] => (allowed, [])
  | comment, allowed, s :: rest =>
    if isBreak s.char then gap inFlow false (allowed || !inFlow) rest
    else if comment || s.char == ' ' || (s.char == '\t' && (inFlow || !allowed)) then
      gap inFlow comment allowed rest
    else if s.char == '#' then gap inFlow true allowed rest
    else (allowed, s :: rest)

/-- What stands between two tokens is skipped. -/
def skipGap (l : Lexer) : Lexer :=
  let (keyAllowed, rest) := gap l.inFlow false l.keyAllowed l.rest
  { l with keyAllowed, rest }

/-- A directive. -/
def directive? (l : Lexer) (rest : List Spot) : Option Lexer := do
  let l ← (l.unroll (-1)).dropCandidate?
  let (token, rest) ← Token.directive? rest
  return { l with keyAllowed := false }.single rest token

/-- The mark of a document's start or end. -/
def documentMarker? (l : Lexer) (mark : Char) : Option Lexer := do
  let l ← (l.unroll (-1)).dropCandidate?
  let token := if mark == '-' then Token.documentStart else .documentEnd
  return { l with keyAllowed := false }.single (l.rest.drop 3) token

/-- A collection in flow style starts. -/
def openFlow? (l : Lexer) (s : Spot) (rest : List Spot) (t : Token) : Option Lexer := do
  let l ← l.offerKey? s
  return { l with outer := l.candidate :: l.outer, candidate := none, keyAllowed := true }.single
    rest t

/-- A collection in flow style ends. As a whole it may be a key. -/
def closeFlow? (l : Lexer) (rest : List Spot) (t : Token) : Option Lexer := do
  let l ← l.dropCandidate?
  let l := match l.outer with
    | [] => l
    | candidate :: outer => { l with candidate, outer }
  return { l with keyAllowed := false }.single rest t

/-- A comma between the entries of a collection in flow style. -/
def flowEntry? (l : Lexer) (rest : List Spot) : Option Lexer := do
  return { ← l.dropCandidate? with keyAllowed := true }.single rest .flowEntry

/-- An entry of a sequence in block style. -/
def blockEntry? (l : Lexer) (s : Spot) (rest : List Spot) : Option Lexer := do
  if !l.inFlow && !l.keyAllowed then none
  else
    let l ← (l.roll s.column 0 .blockSequenceStart).dropCandidate?
    return { l with keyAllowed := true }.single rest .blockEntry

/-- The mark of a key. -/
def key? (l : Lexer) (s : Spot) (rest : List Spot) : Option Lexer := do
  if !l.inFlow && !l.keyAllowed then none
  else
    let l ← (l.roll s.column 0 .blockMappingStart).dropCandidate?
    return { l with keyAllowed := !l.inFlow }.single rest .key

/-- The mark of a value. The candidate, if there is one, has been a key. -/
def value? (l : Lexer) (s : Spot) (rest : List Spot) : Option Lexer :=
  match l.candidate with
  | some k =>
    let depth := l.count - k.position
    let l := (l.insert depth .key).roll k.column (depth + 1) .blockMappingStart
    some ({ l with candidate := none, keyAllowed := false }.single rest .value)
  | none =>
    if !l.inFlow && !l.keyAllowed then none
    else
      let l := l.roll s.column 0 .blockMappingStart
      some ({ l with keyAllowed := !l.inFlow }.single rest .value)

/-- A token that may begin a key without being one by itself. -/
def labelled? (l : Lexer) (s : Spot) (read : Option (Token × List Spot)) : Option Lexer := do
  let l ← l.offerKey? s
  let (token, rest) ← read
  return { l with keyAllowed := false }.single rest token

/-- A scalar on one or more lines. -/
def scalar? (l : Lexer) (s : Spot) (plain : Bool) (read : Option Token.Scanned) :
    Option Lexer := do
  let l ← l.offerKey? s
  let scanned ← read
  return { l with keyAllowed := scanned.broken }.single scanned.rest (.scalar plain scanned.text)

/-- A plain scalar. -/
def plain? (l : Lexer) (s : Spot) : Option Lexer :=
  l.scalar? s true (Token.plain? l.inFlow (l.indent + 1) l.rest {} [])

/-- A quoted scalar. -/
def quoted? (l : Lexer) (s : Spot) (rest : List Spot) : Option Lexer :=
  l.scalar? s false (Token.quoted? (s.char == '\'') .text rest {} [])

/-- A block, which is no key. -/
def block? (l : Lexer) (folded : Bool) (rest : List Spot) : Option Lexer := do
  if l.inFlow then none
  else
    let l ← l.dropCandidate?
    let scanned ← Token.block? folded l.indent rest
    return { l with keyAllowed := true }.single scanned.rest (.scalar false scanned.text)

/-- The next token, which starts at `s`. -/
def fetch? (l : Lexer) (s : Spot) (rest : List Spot) : Option Lexer :=
  match marker? l.rest with
  | some mark => l.documentMarker? mark
  | none =>
    match s.char with
    | '%' => if s.column == 0 then l.directive? rest else none
    | '[' => l.openFlow? s rest .flowSequenceStart
    | '\x7b' => l.openFlow? s rest .flowMappingStart
    | ']' => l.closeFlow? rest .flowSequenceEnd
    | '\x7d' => l.closeFlow? rest .flowMappingEnd
    | ',' => l.flowEntry? rest
    | '-' => if gapAhead rest then l.blockEntry? s rest else l.plain? s
    | '?' => if l.inFlow || gapAhead rest then l.key? s rest else l.plain? s
    | ':' => if l.inFlow || gapAhead rest then l.value? s rest else l.plain? s
    | '*' => l.labelled? s ((Token.anchorName? rest).map fun (n, r) => (.reference n, r))
    | '&' => l.labelled? s ((Token.anchorName? rest).map fun (n, r) => (.anchor n, r))
    | '!' => l.labelled? s (Token.tag? l.inFlow l.rest)
    | '|' => l.block? false rest
    | '>' => l.block? true rest
    | '\'' | '"' => l.quoted? s rest
    | '@' | '\x60' | '\t' => none
    | _ => l.plain? s

/-- The tokens in order, once the text has come to its end. -/
def finish? (l : Lexer) : Option (List Token) :=
  (l.unroll (-1)).dropCandidate?.map fun l => l.tokens.reverse

/-- The tokens of the rest of the text, at most `fuel` of which start at a
character. -/
def run? : Nat → Lexer → Option (List Token)
  | 0, _ => none
  | fuel + 1, l =>
    let l := l.skipGap
    match l.rest with
    | [] => l.finish?
    | s :: rest => do
      let l ← l.expire? s
      let l ← (l.unroll s.column).fetch? s rest
      run? fuel l

end Lexer

/-- The tokens of a text. Each starts at a character of its own or is put between
others, so the text's length is fuel enough. -/
def Token.ofText? (text : String) : Option (List Token) := do
  let spots ← Spot.ofText? text
  Lexer.run? (spots.length + 1) { rest := spots }

end Trialbook.Yaml

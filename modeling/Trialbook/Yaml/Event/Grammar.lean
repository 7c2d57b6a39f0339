import Trialbook.Yaml.Event

/-!
# From tokens to events

The grammar as an automaton with a stack. Its state says what may come next, and
the stack what is still open. Where the grammar allows a node to be left out, an
event for the missing node stands in its place.

A text holds at most one document, and a text without any has no events.
-/

namespace Trialbook.Yaml

/-- What the grammar has room for. -/
inductive Expectation where
  /-- The end of the document. -/
  | documentEnd
  /-- An entry of a sequence in block style. -/
  | blockEntry
  /-- An entry of a sequence that stands at the depth of the key it belongs to. -/
  | indentlessEntry
  | blockKey
  | blockValue
  /-- An item of a sequence in brackets. -/
  | flowItem (first : Bool)
  /-- The key of a mapping of one entry that is an item in brackets. -/
  | pairKey
  | pairValue
  | pairEnd
  /-- A key in braces. -/
  | flowKey (first : Bool)
  | flowValue
  /-- The value of a key in braces that has no mark. -/
  | flowNoValue
  deriving DecidableEq, Repr

/-- Handles of tags with what they stand for. -/
abbrev Handles := List (String × List UInt8)

/-- The handles that every document knows. -/
def Handles.standard : Handles :=
  [("!", "!".toUTF8.toList), ("!!", TagEffect.corePrefix.toUTF8.toList)]

/-- The grammar at work. -/
structure Grammar where
  tokens : List Token
  expected : Expectation
  /-- What is open around, innermost first. -/
  stack : List Expectation := []
  /-- The events, latest first. -/
  events : List Event := []
  handles : Handles := Handles.standard

namespace Grammar

/-- The bytes of a tag. One without a handle is complete. -/
def tagBytes? (handles : Handles) (handle : String) (suffix : List UInt8) : Option (List UInt8) :=
  if handle.isEmpty then some suffix else (handles.lookup handle).map (· ++ suffix)

/-- The anchor and the tag in front of a node, in either order. -/
def properties? (handles : Handles) : List Token → Option (Properties × List Token)
  | .anchor name :: .tag handle suffix :: rest => do
    let bytes ← tagBytes? handles handle suffix
    return (⟨some name, some (.ofBytes bytes)⟩, rest)
  | .tag handle suffix :: .anchor name :: rest => do
    let bytes ← tagBytes? handles handle suffix
    return (⟨some name, some (.ofBytes bytes)⟩, rest)
  | .anchor name :: rest => some (⟨some name, none⟩, rest)
  | .tag handle suffix :: rest => do
    let bytes ← tagBytes? handles handle suffix
    return (⟨none, some (.ofBytes bytes)⟩, rest)
  | tokens => some ({}, tokens)

/-- An event that leaves the grammar expecting something else. -/
def emit (g : Grammar) (event : Event) (expected : Expectation) (tokens : List Token) : Grammar :=
  { g with events := event :: g.events, expected, tokens }

/-- An event that completes a node, after which what is open around goes on. -/
def complete? (g : Grammar) (event : Event) (tokens : List Token) : Option Grammar :=
  match g.stack with
  | [] => none
  | expected :: stack => some { g.emit event expected tokens with stack }

/-- A node, after which `next` is expected. Collections in block style may not
stand inside those in flow style, and an entry mark may begin a sequence only
where a key or its value is expected. -/
def node? (g : Grammar) (block indentless : Bool) (next : Expectation) (tokens : List Token) :
    Option Grammar :=
  let g := { g with stack := next :: g.stack }
  match tokens with
  | .reference name :: rest => g.complete? (.reference name) rest
  | tokens => do
    let (properties, tokens) ← properties? g.handles tokens
    let missing :=
      if properties.isEmpty then none else g.complete? (.missing properties) tokens
    match tokens with
    | .scalar plain text :: rest => g.complete? (.scalar properties plain text) rest
    | .flowSequenceStart :: rest =>
      return g.emit (.sequenceStart properties) (.flowItem true) rest
    | .flowMappingStart :: rest => return g.emit (.mappingStart properties) (.flowKey true) rest
    | .blockSequenceStart :: rest =>
      if block then return g.emit (.sequenceStart properties) .blockEntry rest else missing
    | .blockMappingStart :: rest =>
      if block then return g.emit (.mappingStart properties) .blockKey rest else missing
    | .blockEntry :: _ =>
      if indentless then return g.emit (.sequenceStart properties) .indentlessEntry tokens
      else missing
    | _ => missing

/-- A missing node without anything in front of it. -/
def skipNode (g : Grammar) (next : Expectation) (tokens : List Token) : Grammar :=
  g.emit (.missing {}) next tokens

/-- A node in block style, or a missing one before any of the given tokens. -/
def blockNode? (g : Grammar) (indentless : Bool) (next : Expectation) (enders : List Token)
    (tokens : List Token) : Option Grammar :=
  if tokens.head?.any enders.contains then some (g.skipNode next tokens)
  else g.node? true indentless next tokens

/-- A node in flow style, or a missing one before any of the given tokens. -/
def flowNode? (g : Grammar) (next : Expectation) (enders : List Token) (tokens : List Token) :
    Option Grammar :=
  if tokens.head?.any enders.contains then some (g.skipNode next tokens)
  else g.node? false false next tokens

/-- The next event. -/
def step? (g : Grammar) : Option Grammar :=
  match g.expected, g.tokens with
  | .documentEnd, _ => none
  | .blockEntry, .blockEntry :: rest =>
    g.blockNode? false .blockEntry [.blockEntry, .blockEnd] rest
  | .blockEntry, .blockEnd :: rest => g.complete? .collectionEnd rest
  | .blockEntry, _ => none
  | .indentlessEntry, .blockEntry :: rest =>
    g.blockNode? false .indentlessEntry [.blockEntry, .key, .value, .blockEnd] rest
  | .indentlessEntry, tokens => g.complete? .collectionEnd tokens
  | .blockKey, .key :: rest => g.blockNode? true .blockValue [.key, .value, .blockEnd] rest
  | .blockKey, .blockEnd :: rest => g.complete? .collectionEnd rest
  | .blockKey, _ => none
  | .blockValue, .value :: rest => g.blockNode? true .blockKey [.key, .value, .blockEnd] rest
  | .blockValue, tokens => some (g.skipNode .blockKey tokens)
  | .flowItem _, .flowSequenceEnd :: rest => g.complete? .collectionEnd rest
  | .flowItem first, tokens => do
    let tokens ← match first, tokens with
      | true, tokens => some tokens
      | false, .flowEntry :: rest => some rest
      | false, _ => none
    match tokens with
    | .flowSequenceEnd :: rest => g.complete? .collectionEnd rest
    | .key :: rest => return g.emit (.mappingStart {}) .pairKey rest
    | tokens => g.node? false false (.flowItem false) tokens
  | .pairKey, tokens =>
    if tokens.head?.any [Token.value, .flowEntry, .flowSequenceEnd].contains then
      some (g.skipNode .pairValue (tokens.drop 1))
    else g.node? false false .pairValue tokens
  | .pairValue, .value :: rest => g.flowNode? .pairEnd [.flowEntry, .flowSequenceEnd] rest
  | .pairValue, tokens => some (g.skipNode .pairEnd tokens)
  | .pairEnd, tokens => some (g.emit .collectionEnd (.flowItem false) tokens)
  | .flowKey _, .flowMappingEnd :: rest => g.complete? .collectionEnd rest
  | .flowKey first, tokens => do
    let tokens ← match first, tokens with
      | true, tokens => some tokens
      | false, .flowEntry :: rest => some rest
      | false, _ => none
    match tokens with
    | .flowMappingEnd :: rest => g.complete? .collectionEnd rest
    | .key :: rest => g.flowNode? .flowValue [.value, .flowEntry, .flowMappingEnd] rest
    | tokens => g.node? false false .flowNoValue tokens
  | .flowValue, .value :: rest => g.flowNode? (.flowKey false) [.flowEntry, .flowMappingEnd] rest
  | .flowValue, tokens => some (g.skipNode (.flowKey false) tokens)
  | .flowNoValue, tokens => some (g.skipNode (.flowKey false) tokens)

/-- What follows the document: marks of its end and nothing else. -/
def finish? (g : Grammar) : Option (List Event) :=
  if g.tokens.all (· = .documentEnd) then some g.events.reverse else none

/-- The events of the rest of the document, of which there are at most `fuel`. -/
def run? : Nat → Grammar → Option (List Event)
  | 0, _ => none
  | fuel + 1, g =>
    if g.expected = .documentEnd then g.finish?
    else do run? fuel (← g.step?)

end Grammar

/-- The directives in front of a document: at most one version, and each handle at
most once. -/
def directives? : Bool → Handles → List Token → Option (Handles × List Token)
  | versioned, handles, .versionDirective major minor :: rest =>
    if versioned || major != 1 || !(minor == 1 || minor == 2) then none
    else directives? true handles rest
  | versioned, handles, .tagDirective handle replacement :: rest =>
    if (handles.lookup handle).isSome then none
    else directives? versioned (handles ++ [(handle, replacement)]) rest
  | _, handles, tokens => some (handles ++ Handles.standard, tokens)

/-- The grammar at the start of a document, if there is a document. Without
directives the mark of its start may be left out. -/
def Grammar.start? (tokens : List Token) : Option (Option Grammar) := do
  let (handles, rest) ← directives? false [] tokens
  let g : Grammar := { tokens := rest, expected := .documentEnd, handles }
  match rest, rest.length == tokens.length with
  | [], true => some none
  | .documentStart :: rest, _ =>
    let ends := match rest with
      | [] | .versionDirective .. :: _ | .tagDirective .. :: _ | .documentStart :: _
      | .documentEnd :: _ => true
      | _ => false
    if ends then return some (g.skipNode .documentEnd rest)
    else (g.node? true false .documentEnd rest).map some
  | rest, true => (g.node? true false .documentEnd rest).map some
  | _, false => none

/-- The events of the document in a text. No token is the cause of more than four
events. -/
def Event.ofTokens? (tokens : List Token) : Option (List Event) := do
  match ← Grammar.start? tokens with
  | none => return []
  | some g => g.run? (4 * tokens.length + 4)

end Trialbook.Yaml

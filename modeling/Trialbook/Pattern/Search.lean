import Trialbook.Pattern.Meaning

/-!
# Finding a match

The search goes through the ways to match in order of preference and stops at
the first that succeeds. A way is a list of what is left to match. Whatever is
left at a place, the outcome depends on nothing else, so a pair of the two that
has been tried is never tried again: that bounds the search by the number of
such pairs, however ambiguous the pattern is.
-/

namespace Trialbook.Pattern

/-- Something left to match: a pattern, or the end of a group. -/
inductive Task where
  | match (core : Core)
  | close (index : Nat)
  deriving DecidableEq, Repr

/-- A place in the text. -/
structure Cursor where
  position : Nat
  before : Option Char
  ahead : List Char
  deriving Repr

/-- The cursor behind the next character. -/
def Cursor.advance (at' : Cursor) (c : Char) (ahead : List Char) : Cursor :=
  ⟨at'.position + 1, some c, ahead⟩

/-- Where groups began and ended, latest first. The beginning of group `n` is
slot `2 * n` and its end the slot behind it. -/
abbrev Slots := List (Nat × Nat)

/-- One way to go on. -/
structure Thread where
  tasks : List Task
  cursor : Cursor
  slots : Slots
  deriving Repr

namespace Thread

/-- The ways in which a thread can go on after one task, most preferred first.
A thread without tasks has none: it has matched. -/
def step (t : Thread) : List Thread :=
  match t.tasks with
  | [] => []
  | .close index :: rest =>
    [{ t with tasks := rest, slots := (2 * index + 1, t.cursor.position) :: t.slots }]
  | .match core :: rest =>
    match core with
    | .empty => [{ t with tasks := rest }]
    | .set points =>
      match t.cursor.ahead with
      | [] => []
      | c :: ahead =>
        if points.contains c.toNat then
          [{ t with tasks := rest, cursor := t.cursor.advance c ahead }]
        else []
    | .look condition =>
      if condition.holds t.cursor.before t.cursor.ahead.head? then [{ t with tasks := rest }]
      else []
    | .group index body =>
      [⟨.match body :: .close index :: rest, t.cursor, (2 * index, t.cursor.position) :: t.slots⟩]
    | .cat first second => [{ t with tasks := .match first :: .match second :: rest }]
    | .alt first second =>
      [{ t with tasks := .match first :: rest }, { t with tasks := .match second :: rest }]
    | .loop greedy body =>
      let more := { t with tasks := .match body :: .match (.loop greedy body) :: rest }
      let done := { t with tasks := rest }
      if greedy then [more, done] else [done, more]
    | .plus greedy body =>
      [{ t with tasks := .match body :: .match (.loop greedy body) :: rest }]

end Thread

/-- For each place, what has been tried there. -/
abbrev Tried := Array (List (List Task))

/-- Whether the thread's tasks have been tried at its place. -/
def Tried.has (tried : Tried) (t : Thread) : Bool :=
  (tried.getD t.cursor.position []).contains t.tasks

/-- The record with the thread's tasks as tried at its place. -/
def Tried.add (tried : Tried) (t : Thread) : Tried :=
  tried.setIfInBounds t.cursor.position (t.tasks :: tried.getD t.cursor.position [])

/-- The first thread to match, searched depth first. -/
def explore : Nat → List Thread → Tried → Option Slots
  | 0, _, _ => none
  | _ + 1, [], _ => none
  | fuel + 1, t :: rest, tried =>
    if tried.has t then explore fuel rest tried
    else if t.tasks.isEmpty then some t.slots
    else explore fuel (t.step ++ rest) (tried.add t)

/-- The match that begins at a place. -/
def matchFrom (core : Core) (cursor : Cursor) (length : Nat) : Option Slots :=
  explore (2 * (core.stateCount + 1) * (length + 1) + 2)
    [⟨[.match (.group 0 core)], cursor, []⟩] (Array.replicate (length + 1) [])

/-- The match that begins first. -/
def matchAnywhere (core : Core) (length : Nat) : Nat → Cursor → Option Slots
  | 0, cursor => matchFrom core cursor length
  | count + 1, cursor =>
    match matchFrom core cursor length with
    | some slots => some slots
    | none =>
      match cursor.ahead with
      | [] => none
      | c :: ahead => matchAnywhere core length count (cursor.advance c ahead)

end Pattern

/-- What a match found: the text and where its groups lie. -/
structure Captures where
  text : List Char
  slots : Pattern.Slots
  names : List (String × Nat)

namespace Captures

/-- The text of a group by number, if the group took part. -/
def group? (c : Captures) (index : Nat) : Option String := do
  let start ← c.slots.lookup (2 * index)
  let stop ← c.slots.lookup (2 * index + 1)
  return String.ofList ((c.text.drop start).take (stop - start))

/-- The text of a group by name. -/
def named? (c : Captures) (name : String) : Option String := do
  c.group? (← c.names.lookup name)

end Captures

/-- The first match of a pattern in a text. -/
def Pattern.search? (p : Pattern) (text : String) : Option Captures :=
  let cs := text.toList
  (Pattern.matchAnywhere p.core cs.length cs.length ⟨0, none, cs⟩).map fun slots =>
    ⟨cs, slots, p.names⟩

end Trialbook

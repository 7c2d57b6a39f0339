import Trialbook.Pattern.Meaning

/-!
# The size of a pattern

An engine lays a pattern out as two automata over the bytes of a text, one for each
direction of reading, with every counted repetition copied out, and refuses a pattern
of which one of the two takes too much memory. Here the memory is only added up, so
that a large pattern is as quick to measure as to read.

A character is a path of up to four bytes. For a set of characters the automaton that
reads forward has one copy of what several paths have behind them, and the one that
reads backward has one copy of what they have in front. Alternatives are measured one
by one, although an engine may let them share a common beginning.
-/

namespace Trialbook.Pattern

open Unicode (Ranges)

/-! ## Sets as ranges -/

/-- Ranges together with one more. -/
def insertRange (low high : Nat) : Ranges → Ranges
  | [] => [(low, high)]
  | (first, last) :: rest =>
    if high + 1 < first then (low, high) :: (first, last) :: rest
    else if last + 1 < low then (first, last) :: insertRange low high rest
    else insertRange (min low first) (max high last) rest

/-- Two sets of ranges together. -/
def unite (a b : Ranges) : Ranges := a.foldr (fun r all => insertRange r.1 r.2 all) b

/-- The code points that are not in ranges, from a code point on. -/
def gapsFrom (low : Nat) : Ranges → Ranges
  | [] => if low ≤ 0x10FFFF then [(low, 0x10FFFF)] else []
  | (first, last) :: rest =>
    if low < first then (low, first - 1) :: gapsFrom (last + 1) rest
    else gapsFrom (last + 1) rest

/-- The code points that are in some ranges but not in others. -/
def without (a b : Ranges) : Ranges := gapsFrom 0 (unite (gapsFrom 0 a) b)

/-- Ranges with all members of the orbits that they have a member of. -/
def closeOver (orbits : List (List Nat)) (points : Ranges) : Ranges :=
  (orbits.filter fun orbit => orbit.any points.contains).foldr
    (fun orbit all => orbit.foldr (fun n all => insertRange n n all) all) points

/-- The code points of a set, in ranges. -/
def CharSet.toRanges : CharSet → Ranges
  | .ranges points => unite points []
  | .union a b => unite a.toRanges b.toRanges
  | .inter a b => without a.toRanges (gapsFrom 0 b.toRanges)
  | .diff a b => without a.toRanges b.toRanges
  | .symmDiff a b =>
    unite (without a.toRanges b.toRanges) (without b.toRanges a.toRanges)
  | .compl a => gapsFrom 0 a.toRanges
  | .caseless a => closeOver Unicode.caseOrbits a.toRanges
  | .asciiCaseless a =>
    closeOver ((List.range 26).map fun i => [0x41 + i, 0x61 + i]) a.toRanges

/-! ## Characters as bytes -/

/-- The code points of one length in bytes, with the mark of the first byte and the
number of further ones. Surrogates have no bytes. -/
def byteLengths : List (Nat × Nat × Nat × Nat) :=
  [(0, 0x7F, 0, 0), (0x80, 0x7FF, 0xC0, 1), (0x800, 0xD7FF, 0xE0, 2),
    (0xE000, 0xFFFF, 0xE0, 2), (0x10000, 0x10FFFF, 0xF0, 3)]

/-- The bytes of a code point, as many as given behind the first one. -/
def bytesOf (mark n : Nat) : Nat → List Nat
  | 0 => [mark + n]
  | more + 1 => bytesOf mark (n / 64) more ++ [0x80 + n % 64]

/-- A range cut in such a way that the bytes of each piece vary independently of one
another. -/
def cut : List Nat → Nat → Nat → Ranges
  | [], low, high => [(low, high)]
  | unit :: units, low, high =>
    if low / unit = high / unit then [(low, high)]
    else
      let start := (low + unit - 1) / unit * unit
      let stop := (high + 1) / unit * unit
      (if low < start then [(low, start - 1)] else []) ++
        (if start < stop then cut units start (stop - 1) else []) ++
        (if stop ≤ high then [(stop, high)] else [])

/-- The paths of bytes for the characters in ranges, each step with its own range. -/
def paths (points : Ranges) : List Ranges :=
  points.flatMap fun (low, high) => byteLengths.flatMap fun (first, last, mark, more) =>
    let low := max low first
    let high := min high last
    if low ≤ high then
      (cut ([0x40, 0x1000, 0x40000].take more) low high).map fun (low, high) =>
        (bytesOf mark low more).zip (bytesOf mark high more)
    else []

/-- Paths by their first step. -/
def byFirst (paths : List Ranges) : List (List Ranges) :=
  paths.splitBy fun p q => p.head? == q.head?

/-- What is still to come at the places that paths go through, for as many steps as
given. -/
def places : Nat → List Ranges → List (List Ranges)
  | 0, _ => []
  | steps + 1, paths =>
    paths :: (((byFirst paths).map (·.map List.tail)).filter (· != [[]])).flatMap (places steps)

/-! ## Extents -/

/-- What several parts take together. -/
def total (sizes : List Nat) : Nat := sizes.foldr (· + ·) 0

/-- The bytes that a state takes, without the ways that lead on from it. -/
def stateSize : Nat := 32

/-- The bytes for a way that takes a byte. -/
def stepSize : Nat := 8

/-- The bytes for a way that takes nothing. -/
def branchSize : Nat := 4

/-- The bytes for a state with two ways that take nothing. -/
def forkSize : Nat := stateSize + 2 * branchSize

/-- What a part of a pattern takes, and what decides on how it is put together with
others. -/
structure Extent where
  forward : Nat
  backward : Nat
  consumes : Bool
  takesNothing : Bool
  /-- The characters, where it is one character. -/
  points : Option Ranges := none
  /-- How many alternatives it has at its top. -/
  branches : Nat := 1

namespace Extent

/-- The extent of nothing, in which nothing but the empty text matches. -/
def empty : Extent where
  forward := stateSize
  backward := stateSize
  consumes := false
  takesNothing := true
  branches := 0

/-- The extent of a condition. -/
def look : Extent := { empty with branches := 1 }

/-- The one code point in some ranges. -/
def single? : Ranges → Option Nat
  | [(low, high)] => if low = high then some low else none
  | _ => none

/-- The memory for one of the given characters, to read forward and backward. -/
def memory (points : Ranges) : Nat × Nat :=
  match single? points with
  | some n =>
    let size := (Char.ofNat n).utf8Size * stateSize
    (size, size)
  | none =>
    if points.all (·.2 < 0x80) then
      let size := 2 * stateSize + points.length * stepSize
      (size, size)
    else
      let all := paths points
      let places := places 4 all
      (stateSize +
          total (places.eraseDups.map fun p => stateSize + (byFirst p).length * stepSize),
        2 * stateSize + all.length * branchSize +
          total (places.map fun p => (byFirst p).length * stateSize))

/-- The extent of one of the given characters. -/
def ofRanges (points : Ranges) : Extent where
  forward := (memory points).1
  backward := (memory points).2
  consumes := !points.isEmpty
  takesNothing := false
  points := some points

/-- Copies in a row, and some more bytes. -/
def copies (count more : Nat) (e : Extent) : Extent where
  forward := count * e.forward + more
  backward := count * e.backward + more
  consumes := e.consumes
  takesNothing := e.takesNothing

/-- The extent of a repetition. -/
def repetition (least : Nat) (most : Option Nat) (e : Extent) : Extent :=
  let (least, most) :=
    if e.takesNothing then (min least 1, some (most.elim 1 (min · 1))) else (least, most)
  match least, most with
  | 0, some 0 => empty
  | 1, some 1 => e
  | 0, some 1 => { e.copies 1 (forkSize + stateSize) with consumes := false }
  | 0, none =>
    if e.consumes then { e.copies 1 forkSize with consumes := false }
    else e.copies 1 (2 * forkSize + stateSize)
  | 0, some most => { e.copies most (2 * stateSize + most * forkSize) with consumes := false }
  | least, none => e.copies least forkSize
  | least, some most =>
    if most ≤ least then e.copies least 0
    else e.copies most (stateSize + (most - least) * forkSize)

/-- The extent of a group, which only the automaton that reads forward remembers. -/
def group (e : Extent) : Extent := { e.copies 1 0 with forward := e.forward + 2 * stateSize }

/-- The extent of parts in a row. -/
def sequence (parts : List Extent) : Extent :=
  match parts.filter (·.branches != 0) with
  | [] => empty
  | [e] => e
  | parts => {
      forward := total (parts.map (·.forward))
      backward := total (parts.map (·.backward))
      consumes := parts.any (·.consumes)
      takesNothing := parts.all (·.takesNothing) }

/-- The extent of a choice. Where each part is one character of a set, the sets are put
together, and so are single characters. -/
def choice (parts : List Extent) : Extent :=
  let apart : Extent := {
    forward := 2 * stateSize + total (parts.map fun e =>
      if 1 < e.branches then e.forward - 2 * stateSize else e.forward + branchSize)
    backward := 2 * stateSize + total (parts.map fun e =>
      if 1 < e.branches then e.backward - 2 * stateSize else e.backward + branchSize)
    consumes := parts.all (·.consumes)
    takesNothing := parts.all (·.takesNothing)
    branches := total (parts.map fun e => max 1 e.branches) }
  match parts, parts.mapM (·.points) with
  | [e], _ => e
  | _, some sets =>
    if sets.all (single? · |>.isSome) || sets.all (single? · |>.isNone) then
      ofRanges (sets.foldr unite [])
    else apart
  | _, none => apart

end Extent

/-! ## Patterns -/

namespace Tree

variable [Dialect]

mutual

/-- The extent of a tree, and the mode behind it, if it has a meaning. -/
def extent : Tree → Mode → Option (Extent × Mode)
  | empty, m => some (.empty, m)
  | flags changes, m => some (.empty, m.changes changes)
  | literal l, m => do return (.ofRanges (← literalOf m l).toRanges, m)
  | dot, m => do return (.ofRanges (← dotOf m).toRanges, m)
  | position _, m => some (.look, m)
  | cls tree, m => do return (.ofRanges (← tree.meaning m).toRanges, m)
  | repetition least most _ body, m => do
    let (inner, m) ← body.extent m
    return (inner.repetition least most, m)
  | group kind body, m =>
    match kind with
    | .plain changes => do
      let (inner, _) ← body.extent (m.changes changes)
      return (inner, m)
    | .numbered | .named _ => do
      let (inner, _) ← body.extent m
      return (inner.group, m)
  | concat parts, m => do
    let (extents, m) ← extents parts m
    return (.sequence extents, m)
  | alternation branches, m => do
    let (extents, m) ← extents branches m
    return (.choice extents, m)

/-- The extents of several trees, one after the other in the text. -/
def extents : List Tree → Mode → Option (List Extent × Mode)
  | [], m => some ([], m)
  | tree :: rest, m => do
    let (first, m) ← tree.extent m
    let (others, m) ← extents rest m
    return (first :: others, m)

end

/-- The memory that the larger automaton of a tree takes. The search may start and end
anywhere in a text, and the whole match is remembered as a group. -/
def memory? (tree : Tree) : Option Nat :=
  (tree.extent {}).map fun (e, _) =>
    let anywhere := forkSize + 2 * stateSize + stepSize
    anywhere + stateSize + max (e.forward + 2 * stateSize) e.backward

end Tree

end Trialbook.Pattern

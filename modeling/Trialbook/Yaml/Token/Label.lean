import Trialbook.Yaml.Plain
import Trialbook.Yaml.Token

/-!
# Anchors, tags and directives

The tokens that are read character class by character class: names of anchors,
tags with their handles and escapes, and directives in front of a document.
-/

namespace Trialbook.Yaml.Token

open Character (isBlank isWord)
open Spot (gapAhead ahead span skip expect? lineRest?)

/-- The name of an anchor or of a reference to one. Only a gap or some of the
indicators may follow it. -/
def anchorName? (spots : List Spot) : Option (String × List Spot) :=
  let (name, rest) := span isWord spots
  let ends := gapAhead rest || rest.head?.any fun s => "?:,]\x7d%@`".contains s.char
  if name.isEmpty || !ends then none else some (String.ofList name, rest)

/-- The handle of a tag: a mark, a name and a second mark, the last two of which
may be missing. -/
def tagHandle? (spots : List Spot) : Option (List Char × List Spot) := do
  let rest ← expect? '!' spots
  let (name, rest) := span isWord rest
  match expect? '!' rest with
  | some rest => return ('!' :: name ++ ['!'], rest)
  | none => return ('!' :: name, rest)

/-- Whether a character may stand in a tag. Those with a meaning in collections
in flow style may only do so between angle brackets and in directives. -/
def isTagChar (verbatim : Bool) (c : Char) : Bool :=
  isWord c || ";/?:@&=+$.%!~*'()".contains c || (verbatim && ",[]".contains c)

/-- How many bytes a character takes whose encoding starts with the byte. -/
def encodedLength? (byte : Nat) : Option Nat :=
  if byte < 0x80 then some 1
  else if byte < 0xC0 then none
  else if byte < 0xE0 then some 2
  else if byte < 0xF0 then some 3
  else if byte < 0xF8 then some 4
  else none

/-- The bytes of the characters of a tag. A percent sign with two digits is a
byte, and `owed` such bytes must follow to complete a character. -/
def tagBytes? : Nat → List Char → Option (List UInt8)
  | owed, '%' :: a :: b :: rest => do
    let byte := (← Plain.digit? 16 a) * 16 + (← Plain.digit? 16 b)
    let owed ← match owed with
      | 0 => (encodedLength? byte).map (· - 1)
      | owed + 1 => if 0x80 ≤ byte ∧ byte < 0xC0 then some owed else none
    return byte.toUInt8 :: (← tagBytes? owed rest)
  | 0, [] => some []
  | 0, c :: rest =>
    if c == '%' then none else return c.toString.toUTF8.toList ++ (← tagBytes? 0 rest)
  | _ + 1, _ => none

/-- A tag's bytes end before the first zero. -/
def untilZero (bytes : List UInt8) : List UInt8 := bytes.takeWhile (· != 0)

/-- The part of a tag behind its handle. -/
def tagSuffix? (verbatim : Bool) (spots : List Spot) :
    Option (List Char × List UInt8 × List Spot) := do
  let (text, rest) := span (isTagChar verbatim) spots
  return (text, untilZero (← tagBytes? 0 text), rest)

/-- A tag between angle brackets. It has no handle. -/
def verbatimTag? (spots : List Spot) : Option (Token × List Spot) := do
  let (text, bytes, rest) ← tagSuffix? true spots
  if text.isEmpty then none
  else return (tag "" bytes, ← expect? '>' rest)

/-- A tag with a handle. A name without a second mark belongs to the part behind
the handle, and the mark alone is a tag of its own. -/
def handledTag? (spots : List Spot) : Option (Token × List Spot) := do
  let (handle, rest) ← tagHandle? spots
  let (text, bytes, rest) ← tagSuffix? false rest
  if handle.length > 1 && handle.getLast? == some '!' then
    if text.isEmpty then none else return (tag (String.ofList handle) bytes, rest)
  else
    let suffix := (String.ofList (handle.drop 1)).toUTF8.toList ++ bytes
    return (if suffix.isEmpty then tag "" [0x21] else tag "!" suffix, rest)

/-- A tag. A gap has to follow it, or a comma inside brackets. -/
def tag? (inFlow : Bool) (spots : List Spot) : Option (Token × List Spot) := do
  let (token, rest) ← match spots with
    | _ :: s :: rest => if s.char == '<' then verbatimTag? rest else handledTag? spots
    | spots => handledTag? spots
  if gapAhead rest || (inFlow && ahead ',' rest) then some (token, rest) else none

/-- A number of at most nine digits. -/
def versionNumber? (spots : List Spot) : Option (Nat × List Spot) := do
  let (digits, rest) := span Char.isDigit spots
  if digits.length > 9 then none else return (← Plain.digits? 10 digits, rest)

/-- What follows the name of a version directive. -/
def versionDirective? (spots : List Spot) : Option (Token × List Spot) := do
  let (major, rest) ← versionNumber? (skip isBlank spots)
  let (minor, rest) ← versionNumber? (← expect? '.' rest)
  return (versionDirective major minor, rest)

/-- What follows the name of a tag directive: a complete handle, or the mark
alone, and what it stands for. -/
def tagDirective? (spots : List Spot) : Option (Token × List Spot) := do
  let (handle, rest) ← tagHandle? (skip isBlank spots)
  if handle.length > 1 && handle.getLast? != some '!' then none
  else if !(rest.head?.any fun s => isBlank s.char) then none
  else
    let (text, bytes, rest) ← tagSuffix? true (skip isBlank rest)
    if text.isEmpty || !gapAhead rest then none
    else return (tagDirective (String.ofList handle) bytes, rest)

/-- A directive, from behind the percent sign to the end of the line. -/
def directive? (spots : List Spot) : Option (Token × List Spot) := do
  let (name, rest) := span isWord spots
  let (token, rest) ←
    if !gapAhead rest then none
    else if name == "YAML".toList then versionDirective? rest
    else if name == "TAG".toList then tagDirective? rest
    else none
  return (token, ← lineRest? rest)

end Trialbook.Yaml.Token

import Trialbook.Unicode.Age
import Trialbook.Unicode.Casing
import Trialbook.Unicode.Category
import Trialbook.Unicode.Script
import Trialbook.Unicode.Segmentation

/-!
# Properties by name

Categories, scripts and properties are asked for by names in which case, blanks,
underscores and hyphens do not count. Groups of categories have names of their
own. All tables are those of version 16.0 of the character database.
-/

namespace Trialbook.Unicode

/-- A name reduced to what counts in it: ASCII characters in lower case without
separators and without a leading "is". The one name that would lose its own
first letters keeps them. -/
def normalizeName (name : String) : String :=
  let cs := name.toList
  let (marked, body) := match cs with
    | a :: b :: rest =>
      if (a == 'i' || a == 'I') && (b == 's' || b == 'S') then (true, rest) else (false, cs)
    | cs => (false, cs)
  let kept := body.filterMap fun c =>
    if c == ' ' || c == '_' || c == '-' || 0x80 ≤ c.toNat then none else some c.toLower
  if marked && kept == ['c'] then "isc" else String.ofList kept

/-- The categories that a normalized category name stands for, each by its
two-letter name. The category of the surrogates has no characters and is not asked
for. -/
def categoriesNamed (name : String) : Option (List String) :=
  match name with
  | "lu" | "uppercaseletter" => some ["Lu"]
  | "ll" | "lowercaseletter" => some ["Ll"]
  | "lt" | "titlecaseletter" => some ["Lt"]
  | "lm" | "modifierletter" => some ["Lm"]
  | "lo" | "otherletter" => some ["Lo"]
  | "lc" | "casedletter" => some ["Lu", "Ll", "Lt"]
  | "l" | "letter" => some ["Lu", "Ll", "Lt", "Lm", "Lo"]
  | "mn" | "nonspacingmark" => some ["Mn"]
  | "mc" | "spacingmark" => some ["Mc"]
  | "me" | "enclosingmark" => some ["Me"]
  | "m" | "mark" | "combiningmark" => some ["Mn", "Mc", "Me"]
  | "nd" | "decimalnumber" | "digit" => some ["Nd"]
  | "nl" | "letternumber" => some ["Nl"]
  | "no" | "othernumber" => some ["No"]
  | "n" | "number" => some ["Nd", "Nl", "No"]
  | "pc" | "connectorpunctuation" => some ["Pc"]
  | "pd" | "dashpunctuation" => some ["Pd"]
  | "ps" | "openpunctuation" => some ["Ps"]
  | "pe" | "closepunctuation" => some ["Pe"]
  | "pi" | "initialpunctuation" => some ["Pi"]
  | "pf" | "finalpunctuation" => some ["Pf"]
  | "po" | "otherpunctuation" => some ["Po"]
  | "p" | "punctuation" | "punct" => some ["Pc", "Pd", "Ps", "Pe", "Pi", "Pf", "Po"]
  | "sm" | "mathsymbol" => some ["Sm"]
  | "sc" | "currencysymbol" => some ["Sc"]
  | "sk" | "modifiersymbol" => some ["Sk"]
  | "so" | "othersymbol" => some ["So"]
  | "s" | "symbol" => some ["Sm", "Sc", "Sk", "So"]
  | "zs" | "spaceseparator" => some ["Zs"]
  | "zl" | "lineseparator" => some ["Zl"]
  | "zp" | "paragraphseparator" => some ["Zp"]
  | "z" | "separator" => some ["Zs", "Zl", "Zp"]
  | "cc" | "control" | "cntrl" => some ["Cc"]
  | "cf" | "format" => some ["Cf"]
  | "co" | "privateuse" => some ["Co"]
  | "cn" | "unassigned" => some ["Cn"]
  | "c" | "other" => some ["Cc", "Cf", "Co", "Cn"]
  | _ => none

/-- The code points of a category by its two-letter name. -/
def categoryRanges (name : String) : Ranges :=
  ((categoryTable.find? (·.1 == name)).map fun entry => rangesOfText entry.2).getD []

/-- The code points of several categories, each range as its own list. -/
def categoriesRanges (names : List String) : List Ranges := names.map categoryRanges

/-- A set of code points: those in one of the ranges, or all others. -/
structure PointSet where
  ranges : List Ranges
  complement : Bool := false

/-- Whether a code point belongs to the set. -/
def PointSet.contains (s : PointSet) (n : Nat) : Bool :=
  (s.ranges.any fun r => r.contains n) != s.complement

/-- The characters of a general category or a group of them, by normalized
name. -/
def category? (name : String) : Option PointSet :=
  match name with
  | "any" => some ⟨[], true⟩
  | "assigned" => some ⟨[categoryRanges "Cn"], true⟩
  | "ascii" => some ⟨[[(0, 0x7F)]], false⟩
  | name => (categoriesNamed name).map fun names => ⟨categoriesRanges names, false⟩

/-- The characters of a script, by normalized name. -/
def script? (name : String) : Option PointSet :=
  (scriptTable.find? (·.names.contains name)).map fun entry => ⟨[rangesOfText entry.own], false⟩

/-- The characters used with a script, by normalized name. -/
def scriptExtension? (name : String) : Option PointSet :=
  (scriptTable.find? (·.names.contains name)).map fun entry =>
    ⟨[rangesOfText (if entry.extended.isEmpty then entry.own else entry.extended)], false⟩

/-- The characters of an entry of a table, by one of its normalized names. -/
def propertyIn? (table : List PropertyEntry) (name : String) : Option PointSet :=
  (table.find? (·.names.contains name)).map fun entry => ⟨[rangesOfText entry.points], false⟩

/-- The characters that have a yes-or-no property, by normalized name. -/
def property? (name : String) : Option PointSet := propertyIn? propertyTable name

/-- The characters that a version of the database has, by its normalized name. -/
def age? (name : String) : Option PointSet :=
  (ageTable.findIdx? (·.names.contains name)).map fun i =>
    ⟨(ageTable.take (i + 1)).map fun entry => rangesOfText entry.points, false⟩

/-- The characters that a bare name stands for: a property, else a category,
else a script. -/
def named? (name : String) : Option PointSet :=
  (property? name).or ((category? name).or (script? name))

/-- The characters for which the named property has the named value. -/
def valued? (property value : String) : Option PointSet :=
  match property with
  | "gc" | "generalcategory" => category? value
  | "sc" | "script" => script? value
  | "scx" | "scriptextensions" => scriptExtension? value
  | "age" => age? value
  | "gcb" | "graphemeclusterbreak" => propertyIn? graphemeBreakTable value
  | "wb" | "wordbreak" => propertyIn? wordBreakTable value
  | "sb" | "sentencebreak" => propertyIn? sentenceBreakTable value
  | _ => none

/-- Every set of characters that differ only in case. -/
def caseOrbits : List (List Nat) :=
  (tableItems caseOrbitText).map fun piece => (pieces (· == '+') piece).map hexValue

/-- The characters that differ from this one at most in case. -/
def caseOrbit (n : Nat) : List Nat :=
  ((caseOrbits.find? (·.contains n))).getD [n]

/-- Every character that changes in upper case, with what it becomes. -/
def upperCases : List (Nat × List Nat) :=
  (tableItems upperCaseText).filterMap fun piece =>
    match pieces (· == '=') piece with
    | [source, target] => some (hexValue source, (pieces (· == '+') target).map hexValue)
    | _ => none

/-- A character in upper case. -/
def upperCase (c : Char) : List Char :=
  if c.toNat < 0x80 then [c.toUpper]
  else match upperCases.find? (·.1 == c.toNat) with
    | some (_, target) => target.map Char.ofNat
    | none => [c]

/-- A text in upper case. -/
def toUpper (s : String) : String := String.ofList (s.toList.flatMap upperCase)

end Trialbook.Unicode

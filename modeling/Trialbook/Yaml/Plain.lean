import Trialbook.Node.Basic

/-!
# What a plain scalar says

A scalar written without quotes may stand for null, a truth value or a number,
and is a text only when it stands for none of these. The reader uses the answer
to build a node; the printer uses it to decide which texts need quotes.
-/

namespace Trialbook.Yaml

open Decimal (Binary64)

/-- The meanings of a plain scalar. -/
inductive PlainReading where
  | null
  | bool (value : Bool)
  | number (value : Number)
  /-- A whole number that no node can hold. -/
  | tooWide
  | text
  deriving DecidableEq, Repr

namespace Plain

/-- The value of a digit in bases up to sixteen. -/
def digit? (base : Nat) (c : Char) : Option Nat :=
  let value :=
    if '0' ≤ c ∧ c ≤ '9' then some (c.toNat - '0'.toNat)
    else if 'a' ≤ c ∧ c ≤ 'f' then some (c.toNat - 'a'.toNat + 10)
    else if 'A' ≤ c ∧ c ≤ 'F' then some (c.toNat - 'A'.toNat + 10)
    else none
  value.filter (· < base)

/-- The value of a non-empty run of digits. -/
def digits? (base : Nat) : List Char → Option Nat
  | [] => none
  | cs => cs.foldlM (fun total c => (digit? base c).map (total * base + ·)) 0

/-- The text without one leading sign of the given ones. -/
def dropSign (signs : List Char) : List Char → List Char
  | c :: rest => if signs.contains c then rest else c :: rest
  | [] => []

/-- Whether the text is digits with a needless zero in front, signed or not.
Such a text is no number. -/
def paddedDigits (cs : List Char) : Bool :=
  match dropSign ['-', '+'] cs with
  | '0' :: c :: rest => (c :: rest).all Char.isDigit
  | _ => false

/-- A whole number in the notation of its mark: sixteen, eight, two or ten. -/
def magnitude? (padded : Bool) : List Char → Option Nat
  | '0' :: 'x' :: rest => digits? 16 rest
  | '0' :: 'o' :: rest => digits? 8 rest
  | '0' :: 'b' :: rest => digits? 2 rest
  | cs => if padded then none else digits? 10 cs

/-- A whole number without a minus sign. -/
def unsigned? (cs : List Char) : Option Nat :=
  magnitude? (paddedDigits cs) (dropSign ['+'] cs)

/-- The magnitude of a whole number with a minus sign. -/
def negated? : List Char → Option Nat
  | '-' :: rest => magnitude? (paddedDigits ('-' :: rest)) rest
  | _ => none

/-- A whole number, if the text is one. Those beyond 64 bits are numbers that no
node can hold, and those beyond 128 bits are not taken for whole numbers. -/
def whole? (cs : List Char) : Option PlainReading :=
  match unsigned? cs, negated? cs with
  | some n, _ =>
    if n < Nat.pow 2 64 then some (.number (.int n))
    else if n < Nat.pow 2 128 then some .tooWide
    else none
  | none, some n =>
    if n ≤ Nat.pow 2 63 then some (.number (.int (-(n : Int))))
    else if n ≤ Nat.pow 2 127 then some .tooWide
    else none
  | none, none => none

/-- The exponent of a decimal: nothing, or a mark, a sign and digits. -/
def exponent? : List Char → Option Int
  | [] => some 0
  | c :: rest =>
    if c = 'e' ∨ c = 'E' then
      match rest with
      | '-' :: ds => (digits? 10 ds).map fun n => -(n : Int)
      | '+' :: ds => (digits? 10 ds).map fun n => (n : Int)
      | ds => (digits? 10 ds).map fun n => (n : Int)
    else none

/-- A decimal fraction with an optional minus sign: digits with at most one
point among them, and an optional exponent. -/
def decimal? (cs : List Char) : Option Binary64 :=
  let (negative, body) := match cs with
    | '-' :: rest => (true, rest)
    | '+' :: rest => (false, rest)
    | cs => (false, cs)
  let integral := body.takeWhile Char.isDigit
  let afterIntegral := body.dropWhile Char.isDigit
  let (fraction, tail) := match afterIntegral with
    | '.' :: rest => (rest.takeWhile Char.isDigit, rest.dropWhile Char.isDigit)
    | rest => ([], rest)
  match digits? 10 (integral ++ fraction), exponent? tail with
  | some n, some e => some (Binary64.ofDecimal negative n (e - fraction.length))
  | _, _ => none

/-- A fraction, an infinity or the not-a-number, if the text is one. A fraction
too large to hold is none of them. -/
def fraction? (cs : List Char) : Option Binary64 :=
  let s := String.ofList cs
  let unsignedText := dropSign ['+'] cs
  let twoSigns := match cs with
    | '+' :: c :: _ => c == '+' || c == '-'
    | _ => false
  if twoSigns then none
  else if [".inf", ".Inf", ".INF"].contains (String.ofList unsignedText) then
    some (.infinite false)
  else if ["-.inf", "-.Inf", "-.INF"].contains s then some (.infinite true)
  else if [".nan", ".NaN", ".NAN"].contains s then some .nan
  else (decimal? unsignedText).filter Binary64.isFinite

/-- Null, if the text says so. -/
def null? (s : String) : Option Unit :=
  if ["null", "Null", "NULL", "~"].contains s then some () else none

/-- A truth value, if the text is one. -/
def bool? (s : String) : Option Bool :=
  if ["true", "True", "TRUE"].contains s then some true
  else if ["false", "False", "FALSE"].contains s then some false
  else none

/-- The meaning of a plain scalar. -/
def read (s : String) : PlainReading :=
  let cs := s.toList
  if s.isEmpty || (null? s).isSome then .null
  else match bool? s with
    | some b => .bool b
    | none =>
      match whole? cs with
      | some reading => reading
      | none =>
        if paddedDigits cs then .text
        else match fraction? cs with
          | some f => .number (.float f)
          | none => .text

/-- Whether a text written plain would be taken for something else, or might be
taken for a number by a reader less careful with leading zeros. -/
def misread (s : String) : Bool :=
  read s != .text || paddedDigits s.toList

end Plain

end Trialbook.Yaml

/-!
# Written data

Strings, lists and records as indented text. Strings stand between double quotes,
with quotes, backslashes and controls escaped and every other character as it is.
-/

namespace Trialbook.Text

/-- Data to be written. -/
inductive Json where
  | string (value : String)
  | array (items : List Json)
  | object (fields : List (String × Json))
  deriving Repr

namespace Json

/-- A character inside quotes. -/
def escape (c : Char) : String :=
  match c with
  | '"' => "\\\""
  | '\\' => "\\\\"
  | '\x08' => "\\b"
  | '\x0C' => "\\f"
  | '\n' => "\\n"
  | '\r' => "\\r"
  | '\t' => "\\t"
  | c =>
    if c.toNat < 0x20 then
      "\\u00" ++ (if c.toNat < 0x10 then "0" else "") ++ String.ofList (Nat.toDigits 16 c.toNat)
    else c.toString

/-- A string between quotes. -/
def quote (s : String) : String := "\"" ++ String.join (s.toList.map escape) ++ "\""

/-- Lines between brackets, each one deeper than those. Without any the brackets
stand together. -/
def bracketed (left right : String) (depth : Nat) (lines : List String) : String :=
  let newline (depth : Nat) := "\n" ++ String.ofList (List.replicate (2 * depth) ' ')
  if lines.isEmpty then left ++ right
  else left ++ ",".intercalate (lines.map (newline (depth + 1) ++ ·)) ++ newline depth ++ right

mutual

/-- Data whose first line is already indented to the given depth. -/
def render (depth : Nat) : Json → String
  | string s => quote s
  | array items => bracketed "[" "]" depth (renderItems (depth + 1) items)
  | object fields => bracketed "\x7b" "\x7d" depth (renderFields (depth + 1) fields)

/-- The items of a list. -/
def renderItems (depth : Nat) : List Json → List String
  | [] => []
  | item :: rest => render depth item :: renderItems depth rest

/-- The fields of a record. -/
def renderFields (depth : Nat) : List (String × Json) → List String
  | [] => []
  | (name, value) :: rest =>
    (quote name ++ ": " ++ render depth value) :: renderFields depth rest

end

/-- Data as a text of its own. -/
def toText (j : Json) : String := j.render 0

end Json

end Trialbook.Text

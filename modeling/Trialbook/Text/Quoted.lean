import Trialbook.Unicode.Lookup

/-!
# Quoted text in messages

A text that a message quotes stands between double quotes, with quotes and
backslashes escaped and every character that would not show, or that would join
the one before it, written by its code.
-/

namespace Trialbook.Text

open Unicode (Ranges categoriesRanges property? PointSet)

/-- Characters that do not show: controls, formats, separators other than the
space, and code points without a character. -/
def hiddenRanges : List Ranges := categoriesRanges ["Cc", "Cf", "Co", "Cn", "Zl", "Zp", "Zs"]

/-- Characters that join the one before them. -/
def joiningPoints : PointSet := (property? "graphemeextend").getD ⟨[], false⟩

/-- Whether a character is written by its code. -/
def isHidden (c : Char) : Bool :=
  if c.toNat < 0x7F then c.toNat < 0x20
  else hiddenRanges.any (·.contains c.toNat) || joiningPoints.contains c.toNat

/-- A character inside quotes. -/
def quotedChar (c : Char) : String :=
  match c with
  | '\x00' => "\\0"
  | '\t' => "\\t"
  | '\n' => "\\n"
  | '\r' => "\\r"
  | '"' => "\\\""
  | '\\' => "\\\\"
  | c =>
    if isHidden c then "\\u\x7b" ++ String.ofList (Nat.toDigits 16 c.toNat) ++ "\x7d"
    else c.toString

/-- A text between quotes. -/
def quoted (s : String) : String := "\"" ++ String.join (s.toList.map quotedChar) ++ "\""

end Trialbook.Text

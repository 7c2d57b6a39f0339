/-!
# Character classes of the document format

The reader and the printer agree on which characters end a line, which separate
tokens and which may be written as they are.
-/

namespace Trialbook.Yaml.Character

/-- A space or a tab. -/
def isBlank (c : Char) : Bool := c == ' ' || c == '\t'

/-- One of the five characters that end a line. -/
def isBreak (c : Char) : Bool :=
  c == '\n' || c == '\r' || c == '\x85' || c == '\u2028' || c == '\u2029'

/-- A blank or a line end. -/
def isBlankOrBreak (c : Char) : Bool := isBlank c || isBreak c

/-- A character of a name: an anchor, or the handle of a tag. -/
def isWord (c : Char) : Bool := c.isAlphanum || c == '_' || c == '-'

/-- A character that is written as it is wherever quotes allow it. Tabs and the
byte-order mark are not among them. -/
def isPrintable (c : Char) : Bool :=
  let n := c.toNat
  n == 0x0A || (0x20 ≤ n && n ≤ 0x7E) || (0xA0 ≤ n && n ≤ 0xFFFD && n != 0xFEFF)
    || 0x10000 ≤ n

end Trialbook.Yaml.Character

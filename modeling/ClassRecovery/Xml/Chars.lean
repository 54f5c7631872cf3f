import ClassRecovery.Text.CodeRange

/-!
# Characters of XML

Which characters a document may contain, which are space, and which begin and continue a name.
-/

set_option autoImplicit false

namespace ClassRecovery.Xml

open Text

/-- A character a document may contain: no control but tab, line feed and carriage return, and
neither of the two non-characters at the end of the first plane. -/
def isChar (c : Char) : Bool :=
  if c.toNat < 0x20 then c == '\t' || c == '\n' || c == '\r'
  else c.toNat != 0xFFFE && c.toNat != 0xFFFF

/-- White space between the parts of a tag. -/
def isSpace (c : Char) : Bool := c == ' ' || c == '\t' || c == '\n' || c == '\r'

/-- Characters that begin a name, outside ASCII. -/
def nameStartRanges : CodeRanges :=
  [(0xC0, 0xD6), (0xD8, 0xF6), (0xF8, 0x2FF), (0x370, 0x37D), (0x37F, 0x1FFF),
   (0x200C, 0x200D), (0x2070, 0x218F), (0x2C00, 0x2FEF), (0x3001, 0xD7FF), (0xF900, 0xFDCF),
   (0xFDF0, 0xFFFD), (0x10000, 0xEFFFF)]

/-- Characters that only continue a name, outside ASCII. -/
def nameRestRanges : CodeRanges := [(0xB7, 0xB7), (0x300, 0x36F), (0x203F, 0x2040)]

/-- A character that may begin a name. -/
def isNameStart (c : Char) : Bool :=
  if isAscii c then c.isAlpha || c == ':' || c == '_' else nameStartRanges.has c.toNat

/-- A character that may stand in a name. -/
def isNameChar (c : Char) : Bool :=
  isNameStart c
    || (if isAscii c then c.isDigit || c == '-' || c == '.' else nameRestRanges.has c.toNat)

end ClassRecovery.Xml

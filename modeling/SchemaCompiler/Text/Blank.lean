import SchemaCompiler.Text.Basic
import SchemaCompiler.Text.CodePoints

/-!
# Blanks

Names and expressions are trimmed before they are compared, by the Unicode property `White_Space`:
it holds the ASCII blanks and line ends, the no-break space and the typographic spaces, and not the
zero-width ones.
-/

namespace SchemaCompiler.Text

/-- The code points with the property `White_Space`. -/
def whiteSpace : CodePointSet where
  ranges := [(0x09, 0x0D), (0x20, 0x20), (0x85, 0x85), (0xA0, 0xA0), (0x1680, 0x1680),
    (0x2000, 0x200A), (0x2028, 0x2029), (0x202F, 0x202F), (0x205F, 0x205F), (0x3000, 0x3000)]
  alternating := []

/-- Blanks and line ends of every script. -/
def isBlank (c : Char) : Bool := whiteSpace.contains c

/-- `s` without blanks at either end. -/
def trim (s : String) : String := trimWhile isBlank s

/-- `s` without blanks at its end. -/
def trimEnd (s : String) : String := trimEndWhile isBlank s

/-- Whether `s` holds nothing but blanks. -/
def isBlankText (s : String) : Bool := s.toList.all isBlank

end SchemaCompiler.Text

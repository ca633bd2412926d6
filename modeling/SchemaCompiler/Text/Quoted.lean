import SchemaCompiler.Text.Invisible

/-!
# Text between double quotes

The literal form of a text in error messages and in generated source: between double quotes, with a
backslash before the quote and the backslash, short escapes for NUL, tab, carriage return and line
feed, and the code point in hexadecimal for every other character that does not show.
-/

namespace SchemaCompiler.Text

/-- A character as it stands between double quotes. -/
def quotedChar (c : Char) : List Char :=
  if c = '\x00' then ['\\', '0']
  else if c = '\t' then ['\\', 't']
  else if c = '\r' then ['\\', 'r']
  else if c = '\n' then ['\\', 'n']
  else if c = '\\' || c = '"' then ['\\', c]
  else if isInvisible c then ['\\', 'u', '\x7b'] ++ Nat.toDigits 16 c.toNat ++ ['\x7d']
  else [c]

/-- A text between double quotes. -/
def quoted (s : String) : String := String.ofList ('"' :: s.toList.flatMap quotedChar ++ ['"'])

end SchemaCompiler.Text

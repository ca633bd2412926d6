import SchemaCompiler.Json.Basic
import SchemaCompiler.Number.Shortest

/-!
# JSON text

Two layouts of the same text: on one line without blanks, and over several lines with two blanks per
level.  A string is escaped only where JSON demands it: the quote, the backslash and the characters
below the space.

* `Json.stringLiteral` — a string between quotes.
* `Json.compact` — on one line.
* `Json.pretty` — over several lines.
-/

namespace SchemaCompiler.Json

/-! ## Strings -/

/-- A character as it stands in a string literal. -/
def escapedChar (c : Char) : List Char :=
  if c = '"' then ['\\', '"']
  else if c = '\\' then ['\\', '\\']
  else if c = '\n' then ['\\', 'n']
  else if c = '\r' then ['\\', 'r']
  else if c = '\t' then ['\\', 't']
  else if c = '\x08' then ['\\', 'b']
  else if c = '\x0c' then ['\\', 'f']
  else if c.toNat < 0x20 then
    ['\\', 'u', '0', '0', Nat.digitChar (c.toNat / 16), Nat.digitChar (c.toNat % 16)]
  else [c]

/-- The characters of a string literal. -/
def literalChars (s : String) : List Char := '"' :: s.toList.flatMap escapedChar ++ ['"']

/-- A string between quotes. -/
def stringLiteral (s : String) : String := String.ofList (literalChars s)

/-! ## Values -/

/-- An integer in decimal digits. -/
def integerChars (n : Int) : List Char :=
  (if n < 0 then ['-'] else []) ++ Nat.toDigits 10 n.natAbs

/-- Several texts between brackets, separated by commas. -/
def bracketed (opening closing : Char) (parts : List (List Char)) : List Char :=
  opening :: [','].intercalate parts ++ [closing]

mutual

/-- A value on one line. -/
def compactChars : Json → List Char
  | .null => ['n', 'u', 'l', 'l']
  | .bool b => if b then ['t', 'r', 'u', 'e'] else ['f', 'a', 'l', 's', 'e']
  | .int n => integerChars n
  | .float x => x.render.toList
  | .string s => literalChars s
  | .array xs => bracketed '[' ']' (compactItems xs)
  | .object fields => bracketed '\x7b' '\x7d' (compactFields fields)

/-- The items of an array, each on one line. -/
def compactItems : List Json → List (List Char)
  | [] => []
  | x :: rest => compactChars x :: compactItems rest

/-- The fields of an object, each on one line. -/
def compactFields : List (String × Json) → List (List Char)
  | [] => []
  | (key, value) :: rest => (literalChars key ++ ':' :: compactChars value) :: compactFields rest

end

/-- A value on one line. -/
def compact (j : Json) : String := String.ofList j.compactChars

/-- A line end and the blanks of a level. -/
def lineBreak (level : Nat) : List Char := '\n' :: List.replicate (2 * level) ' '

/-- Several texts between brackets, each on lines of its own, one level further in. -/
def spread (opening closing : Char) (level : Nat) (parts : List (List Char)) : List Char :=
  if parts.isEmpty then [opening, closing]
  else
    opening :: [','].intercalate (parts.map (lineBreak (level + 1) ++ ·)) ++ lineBreak level
      ++ [closing]

mutual

/-- A value over several lines, at a level. -/
def prettyChars (level : Nat) : Json → List Char
  | .null => ['n', 'u', 'l', 'l']
  | .bool b => if b then ['t', 'r', 'u', 'e'] else ['f', 'a', 'l', 's', 'e']
  | .int n => integerChars n
  | .float x => x.render.toList
  | .string s => literalChars s
  | .array xs => spread '[' ']' level (prettyItems (level + 1) xs)
  | .object fields => spread '\x7b' '\x7d' level (prettyFields (level + 1) fields)

/-- The items of an array, each over several lines. -/
def prettyItems (level : Nat) : List Json → List (List Char)
  | [] => []
  | x :: rest => prettyChars level x :: prettyItems level rest

/-- The fields of an object, each over several lines. -/
def prettyFields (level : Nat) : List (String × Json) → List (List Char)
  | [] => []
  | (key, value) :: rest =>
    (literalChars key ++ ':' :: ' ' :: prettyChars level value) :: prettyFields level rest

end

/-- A value over several lines. -/
def pretty (j : Json) : String := String.ofList (j.prettyChars 0)

end SchemaCompiler.Json

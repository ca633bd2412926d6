import SchemaCompiler.Text.Basic

/-!
# The small parts of TOML

Blanks, comments, line ends, strings and keys, read from the front of a list of characters.  A reader
returns what it read and the characters that are left, or none where the text breaks the grammar.

* `endLine`, `skipLayout` — what may stand at the end of a line and between the items of an array.
* `Piece`, `readBody` — the inside of a string, piece by piece; each kind of string has a function
  that reads one piece.
* `readString` — a string of any kind.
* `readKey` — a key, whose parts are separated by points.
-/

namespace SchemaCompiler.Toml

/-! ## Layout -/

/-- The characters that separate words on a line. -/
def isBlank (c : Char) : Bool := c == ' ' || c == '\t'

/-- The text from its first character that is no blank on. -/
def skipBlank (cs : List Char) : List Char := cs.dropWhile isBlank

/-- The characters of comments and of strings: all but the controls, of which the tab is allowed. -/
def isTextChar (c : Char) : Bool := c == '\t' || (0x20 ≤ c.toNat && c.toNat != 0x7F)

/-- The text behind a line end, if it begins with one. -/
def lineEnd? : List Char → Option (List Char)
  | '\n' :: rest => some rest
  | '\r' :: '\n' :: rest => some rest
  | _ => none

/-- The text behind a comment, or all of it. -/
def skipComment : List Char → List Char
  | '#' :: rest => rest.dropWhile isTextChar
  | cs => cs

/-- The text behind the rest of a line, which holds blanks and a comment at most. -/
def endLine (cs : List Char) : Option (List Char) :=
  match skipComment (skipBlank cs) with
  | [] => some []
  | cs => lineEnd? cs

/-- The text from its first character on that is neither a blank nor part of a line end or a comment;
`comment` says whether a comment is open.  A comment has to end before the text does. -/
def skipLayout (comment : Bool) : List Char → Option (List Char)
  | [] => if comment then none else some []
  | '\n' :: rest => skipLayout false rest
  | '\r' :: '\n' :: rest => skipLayout false rest
  | c :: rest =>
    if comment then if isTextChar c then skipLayout true rest else none
    else if c = '#' then skipLayout true rest
    else if isBlank c then skipLayout false rest
    else some (c :: rest)

/-- The text from its first character on that is neither a blank nor part of a line end. -/
def skipBlankLines : List Char → List Char
  | '\n' :: rest => skipBlankLines rest
  | '\r' :: '\n' :: rest => skipBlankLines rest
  | c :: rest => if isBlank c then skipBlankLines rest else c :: rest
  | [] => []

/-! ## Strings -/

/-- What stands at the front of the inside of a string. -/
inductive Piece where
  | text (cs : List Char)
  /-- The end of the string, with the last characters of its text. -/
  | close (cs : List Char)

/-- A way to read one piece. -/
abbrev PieceReader := List Char → Option (Piece × List Char)

/-- The inside of a string up to its end.  Every piece takes a character at least, so the number of
characters is enough fuel. -/
def readBody (piece : PieceReader) : Nat → List Char → Option (List Char × List Char)
  | 0, _ => none
  | fuel + 1, cs =>
    match piece cs with
    | none => none
    | some (.close last, rest) => some (last, rest)
    | some (.text cs, rest) =>
      (readBody piece fuel rest).map fun (more, left) => (cs ++ more, left)

/-- The character with a number, unless the number is that of a half of a pair or too large. -/
def charOf? (n : Nat) : Option Char := if n.isValidChar then some (Char.ofNat n) else none

/-- The character that a letter stands for behind a backslash. -/
def shortEscape : Char → Option Char
  | '"' => some '"'
  | '\\' => some '\\'
  | 'b' => some '\x08'
  | 'f' => some '\x0c'
  | 'n' => some '\n'
  | 'r' => some '\r'
  | 't' => some '\t'
  | _ => none

/-- The character whose number is written by a run of hexadecimal digits of a length. -/
def hexChar (length : Nat) (digits : List Char) : Option Char := do
  if digits.length = length then charOf? (← Text.hexNumber digits) else none

/-- A piece behind a backslash. -/
def escapePiece : PieceReader
  | 'u' :: rest => (hexChar 4 (rest.take 4)).map fun c => (.text [c], rest.drop 4)
  | 'U' :: rest => (hexChar 8 (rest.take 8)).map fun c => (.text [c], rest.drop 8)
  | c :: rest => (shortEscape c).map fun c => (.text [c], rest)
  | [] => none

/-- A piece that stands for itself. -/
def plainPiece : PieceReader
  | c :: rest => if isTextChar c then some (.text [c], rest) else none
  | [] => none

/-- A piece of a string on one line that knows escapes. -/
def basicPiece : PieceReader
  | '"' :: rest => some (.close [], rest)
  | '\\' :: rest => escapePiece rest
  | cs => plainPiece cs

/-- A piece of a string on one line that knows no escapes. -/
def literalPiece : PieceReader
  | '\'' :: rest => some (.close [], rest)
  | cs => plainPiece cs

/-- A line end, which is kept as a line feed, or a piece that stands for itself. -/
def linePiece (cs : List Char) : Option (Piece × List Char) :=
  match lineEnd? cs with
  | some rest => some (.text ['\n'], rest)
  | none => plainPiece cs

/-- A piece of a string over several lines, which three of the same quote end; one or two more before
them belong to the text. -/
def quotesPiece (quote : Char) (cs : List Char) : Option (Piece × List Char) :=
  let run := (cs.takeWhile (· == quote)).length
  if run = 0 then none
  else if run < 3 then some (.text (List.replicate run quote), cs.drop run)
  else
    let kept := min (run - 3) 2
    some (.close (List.replicate kept quote), cs.drop (kept + 3))

/-- The text behind a line end that a backslash takes out of a string, together with the blanks and
line ends around it. -/
def foldedBreak? (cs : List Char) : Option (List Char) := (lineEnd? (skipBlank cs)).map skipBlankLines

/-- A piece of a string over several lines that knows escapes. -/
def basicLinesPiece : PieceReader
  | '"' :: rest => quotesPiece '"' ('"' :: rest)
  | '\\' :: rest =>
    match foldedBreak? rest with
    | some rest => some (.text [], rest)
    | none => escapePiece rest
  | cs => linePiece cs

/-- A piece of a string over several lines that knows no escapes. -/
def literalLinesPiece : PieceReader
  | '\'' :: rest => quotesPiece '\'' ('\'' :: rest)
  | cs => linePiece cs

/-- The rest of a string behind its opening quotes. -/
def readRest (piece : PieceReader) (cs : List Char) : Option (String × List Char) :=
  (readBody piece (cs.length + 1) cs).map fun (s, left) => (String.ofList s, left)

/-- The text behind a line end right after the opening quotes, which is no part of the string. -/
def skipFirstBreak (cs : List Char) : List Char := (lineEnd? cs).getD cs

/-- A string on one line. -/
def readLineString : List Char → Option (String × List Char)
  | '"' :: rest => readRest basicPiece rest
  | '\'' :: rest => readRest literalPiece rest
  | _ => none

/-- A string of any kind. -/
def readString : List Char → Option (String × List Char)
  | '"' :: '"' :: '"' :: rest => readRest basicLinesPiece (skipFirstBreak rest)
  | '\'' :: '\'' :: '\'' :: rest => readRest literalLinesPiece (skipFirstBreak rest)
  | cs => readLineString cs

/-! ## Keys -/

/-- The characters of a key without quotes. -/
def isKeyChar (c : Char) : Bool := c.isAlphanum || c == '_' || c == '-'

/-- One part of a key. -/
def readKeyPart (cs : List Char) : Option (String × List Char) :=
  match cs with
  | '"' :: _ | '\'' :: _ => readLineString cs
  | _ =>
    let word := cs.takeWhile isKeyChar
    if word.isEmpty then none else some (String.ofList word, cs.dropWhile isKeyChar)

/-- The parts of a key, at most `limit` of them, with blanks around them. -/
def readKeyParts : (limit : Nat) → List Char → Option (List String × List Char)
  | 0, _ => none
  | limit + 1, cs => do
    let (part, rest) ← readKeyPart (skipBlank cs)
    match skipBlank rest with
    | '.' :: rest => (readKeyParts limit rest).map fun (parts, left) => (part :: parts, left)
    | rest => some ([part], rest)

/-- The most parts of a key, and the deepest nesting of brackets. -/
def deepest : Nat := 79

/-- A key: the tables on the way to what it names, and its name there. -/
structure Key where
  parents : List String
  name : String
  deriving DecidableEq, Repr

/-- A key. -/
def readKey (cs : List Char) : Option (Key × List Char) := do
  let (parts, rest) ← readKeyParts deepest cs
  return (⟨parts.dropLast, ← parts.getLast?⟩, rest)

end SchemaCompiler.Toml

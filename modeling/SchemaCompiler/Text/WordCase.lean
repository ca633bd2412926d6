import SchemaCompiler.Text.Alphanumeric
import SchemaCompiler.Text.Basic
import SchemaCompiler.Text.LetterCase.Classes

/-!
# The three spellings of a compound name

`user profile`, `userProfile` and `user_profile` name the same thing.  A word boundary is a character
that is neither letter nor digit, or a change of case; trailing separators are dropped first.  All
conversions of letters are those of ASCII, so a letter of another script keeps its case.

* `snakeCase` — words in small letters joined by underscores.
* `camelCase`, `pascalCase` — words set off by a capital; the first word has a small first letter in
  one and a capital in the other.
-/

namespace SchemaCompiler.Text

/-- Everything but letters and digits separates words. -/
def isSeparator (c : Char) : Bool := !isAlphanumeric c

/-- Letters that ASCII conversion to capitals leaves alone: capitals, digits and every character
outside ASCII. -/
def isUnraised (c : Char) : Bool := c == c.toUpper

/-! ## Words joined by underscores -/

/-- Whether the character that stands at a place of `whole` is a small letter; past the end there is
none. -/
def isLowercaseAt (whole : Array Char) (i : Nat) : Bool :=
  match whole[i]? with
  | some c => isLowercase c
  | none => false

/-- Converts the characters from byte offset `offset` on; `fresh` says that a word is about to begin.
The neighbours that decide on a boundary are looked up in `whole` at the places next to the offset. -/
def snakeFrom (whole : Array Char) (offset : Nat) (fresh : Bool) : List Char → List Char
  | [] => []
  | c :: rest =>
    let next := offset + c.utf8Size
    if isSeparator c then
      if fresh then snakeFrom whole next true rest else '_' :: snakeFrom whole next true rest
    else if !fresh && isUnraised c &&
        (isLowercaseAt whole (offset + 1) || isLowercaseAt whole (offset - 1)) then
      '_' :: c.toLower :: snakeFrom whole next false rest
    else c.toLower :: snakeFrom whole next false rest

/-- Words in small letters joined by underscores. -/
def snakeCase (s : String) : String :=
  String.ofList (snakeFrom s.toList.toArray 0 true (dropWhileEnd isSeparator s.toList))

/-! ## Words set off by capitals -/

/-- Converts the characters that remain.  `newWord` says that the next letter begins a word, `last` is
the latest letter that was written small, and `found` says whether any letter or digit came before. -/
def camelFrom (newWord : Bool) (last : Char) (found : Bool) : List Char → List Char
  | [] => []
  | c :: rest =>
    if isSeparator c then camelFrom (newWord || found) last found rest
    else if isNumeric c then c :: camelFrom true last true rest
    else if newWord || (isLowercase last && isUppercase c && last != ' ') then
      c.toUpper :: camelFrom false last true rest
    else c.toLower :: camelFrom false c true rest

/-- Words set off by capitals, the first word small. -/
def camelCase (s : String) : String :=
  String.ofList (camelFrom false ' ' false (dropWhileEnd isSeparator s.toList))

/-- Words set off by capitals, the first word too. -/
def pascalCase (s : String) : String :=
  String.ofList (camelFrom true ' ' false (dropWhileEnd isSeparator s.toList))

end SchemaCompiler.Text

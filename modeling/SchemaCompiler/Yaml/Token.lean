import SchemaCompiler.Yaml.Scalar

/-!
# The tokens of YAML

The smallest parts of a YAML text that mean something: marks, the names in directives, anchors and
tags, and scalars.  Where the text shows structure by indentation alone, there are tokens for the
beginning and the end of a block.

* `Token` — the tokens.
* `readDirective`, `readAnchor`, `readTag` — the tokens that begin with a character of their own.
-/

namespace SchemaCompiler.Yaml

/-- A token. -/
inductive Token where
  | documentStart
  | documentEnd
  /-- The version of YAML that the text claims to be written in. -/
  | version (major minor : Nat)
  /-- A short form for the beginning of tags. -/
  | shorthand (handle : String) (image : Option String)
  | blockSequenceStart
  | blockMappingStart
  | blockEnd
  | flowSequenceStart
  | flowSequenceEnd
  | flowMappingStart
  | flowMappingEnd
  | blockEntry
  | flowEntry
  | key
  | value
  | alias (name : String)
  | anchor (name : String)
  /-- A tag, whose handle may be empty.  The text behind the handle may be no text at all. -/
  | tag (handle : String) (suffix : Option String)
  | scalar (plain : Bool) (text : String)
  deriving DecidableEq, Repr

/-- A word of characters of a class, and the place behind it. -/
def Cursor.word (c : Cursor) (p : Char → Bool) : String × Cursor :=
  (String.ofList (c.rest.takeWhile p), c.forwardWhile p)

/-! ## Tags -/

/-- The handle of a tag: an exclamation mark, a word, and another mark if there is one. -/
def readHandle (c : Cursor) : Option (String × Cursor) :=
  if beginsWith '!' c.rest then
    let (word, next) := (c.forward 1).word isWordChar
    if beginsWith '!' next.rest then some ("!" ++ word ++ "!", next.forward 1)
    else some ("!" ++ word, next)
  else none

/-- The characters of a tag; some more are allowed between angle brackets. -/
def isTagChar (verbatim : Bool) (c : Char) : Bool :=
  isWordChar c
    || [';', '/', '?', ':', '@', '&', '=', '+', '$', '.', '!', '~', '*', '\'', '(', ')'].contains c
    || (verbatim && [',', '[', ']'].contains c)

/-- The byte that is written by a percent sign and two digits. -/
def percentByte : List Char → Option Nat
  | '%' :: a :: b :: _ => do return (← Text.hexValue a) * 16 + (← Text.hexValue b)
  | _ => none

/-- The number of further bytes of a character, and the part of its number in the first byte. -/
def firstByte (byte : Nat) : Option (Nat × Nat) :=
  if byte < 0x80 then some (0, byte)
  else if 0xC0 ≤ byte && byte < 0xE0 then some (1, byte - 0xC0)
  else if 0xE0 ≤ byte && byte < 0xF0 then some (2, byte - 0xE0)
  else if 0xF0 ≤ byte && byte < 0xF8 then some (3, byte - 0xF0)
  else none

/-- The number of a character whose first bytes gave `n`, with so many bytes to come. -/
def moreBytes : Nat → Nat → List Char → Option Nat
  | 0, n, _ => some n
  | left + 1, n, cs => do
    let byte ← percentByte cs
    if 0x80 ≤ byte && byte < 0xC0 then moreBytes left (n * 64 + (byte - 0x80)) (cs.drop 3) else none

/-- The least number of a character that needs so many bytes behind the first. -/
def leastWith : Nat → Nat
  | 0 => 0
  | 1 => 0x80
  | 2 => 0x800
  | _ => 0x10000

/-- A character written by its bytes, and the number of characters that it takes.  Bytes that lead on
correctly may still be too many for their character, or stand for none. -/
def percentChar (cs : List Char) : Option (Option Char × Nat) := do
  let (more, n) ← firstByte (← percentByte cs)
  let n ← moreBytes more n (cs.drop 3)
  return (if leastWith more ≤ n && n.isValidChar then some (Char.ofNat n) else none, 3 * (more + 1))

/-- The characters of a tag at a place, none for bytes that are no character. -/
def tagText (verbatim : Bool) : (fuel : Nat) → Cursor → Option (List (Option Char) × Cursor)
  | 0, _ => none
  | fuel + 1, c =>
    match c.rest with
    | '%' :: _ =>
      match percentChar c.rest with
      | none => none
      | some (d, length) =>
        (tagText verbatim fuel (c.forward length)).map fun (text, c) => (d :: text, c)
    | d :: _ =>
      if isTagChar verbatim d then
        (tagText verbatim fuel (c.forward 1)).map fun (text, c) => (some d :: text, c)
      else some ([], c)
    | [] => some ([], c)

/-- The text that the characters of a tag make, which ends before a null. -/
def tagString (cs : List (Option Char)) : Option String :=
  ((cs.takeWhile (· != some '\x00')).mapM id).map String.ofList

/-- The text of a tag, of at least one character. -/
def someTagText (verbatim : Bool) (fuel : Nat) (c : Cursor) : Option (Option String × Cursor) := do
  let (text, c) ← tagText verbatim fuel c
  if text.isEmpty then none else return (tagString text, c)

/-- Whether a handle ends in an exclamation mark of its own. -/
def isFullHandle (handle : String) : Bool :=
  handle.length ≥ 2 && handle.toList.getLast? == some '!'

/-- The two parts of a tag.  A tag between angle brackets has no handle, and neither has an exclamation
mark that stands alone; a tag without a full handle has the handle of one mark. -/
def readTagParts (fuel : Nat) (c : Cursor) : Option (Token × Cursor) := do
  if beginsWith '<' (c.rest.drop 1) then
    let (suffix, c) ← someTagText true fuel (c.forward 2)
    if beginsWith '>' c.rest then return (.tag "" suffix, c.forward 1) else none
  else
    let (handle, c) ← readHandle c
    if isFullHandle handle then
      let (suffix, c) ← someTagText false fuel c
      return (.tag handle suffix, c)
    else
      let (text, c) ← tagText false fuel c
      let suffix := tagString ((handle.toList.drop 1).map some ++ text)
      return (if suffix = some "" then .tag "" (some "!") else .tag "!" suffix, c)

/-- A tag, which a blank, the end of the line or, in a flow collection, a comma has to follow. -/
def readTag (flow : Bool) (fuel : Nat) (c : Cursor) : Option (Token × Cursor) := do
  let (token, c) ← readTagParts fuel c
  if isEnd c.rest || (flow && beginsWith ',' c.rest) then return (token, c) else none

/-! ## Anchors -/

/-- The characters besides blanks that may follow the name of an anchor. -/
def endsAnchor (c : Char) : Bool := ['?', ':', ',', ']', '\x7d', '%', '@', '\x60'].contains c

/-- The name of an anchor or an alias behind its mark. -/
def readAnchor (c : Cursor) : Option (String × Cursor) :=
  let (name, c) := (c.forward 1).word isWordChar
  if name.isEmpty || !(isEnd c.rest || c.rest.head?.any endsAnchor) then none else some (name, c)

/-! ## Directives -/

/-- A number of a version, of at most nine digits. -/
def readVersionNumber (c : Cursor) : Option (Nat × Cursor) :=
  let digits := c.rest.takeWhile Char.isDigit
  if digits.isEmpty || digits.length > 9 then none
  else some (Text.digitsValue digits, c.forward digits.length)

/-- The version in a directive. -/
def readVersion (c : Cursor) : Option (Token × Cursor) := do
  let (major, c) ← readVersionNumber c.skipBlanks
  if beginsWith '.' c.rest then
    let (minor, c) ← readVersionNumber (c.forward 1)
    return (.version major minor, c)
  else none

/-- The short form in a directive. -/
def readShorthand (fuel : Nat) (c : Cursor) : Option (Token × Cursor) := do
  let (handle, c) ← readHandle c.skipBlanks
  if (handle == "!" || isFullHandle handle) && beginsBlank c.rest then
    let (image, c) ← someTagText true fuel c.skipBlanks
    if isEnd c.rest then return (.shorthand handle image, c) else none
  else none

/-- A directive with the rest of its line. -/
def readDirective (fuel : Nat) (c : Cursor) : Option (Token × Cursor) := do
  let (name, c) := (c.forward 1).word isWordChar
  if !isEnd c.rest then none
  else
    let (token, c) ←
      if name = "YAML" then readVersion c else if name = "TAG" then readShorthand fuel c else none
    return (token, ← c.endLine?)

end SchemaCompiler.Yaml

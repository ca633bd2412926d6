import SchemaCompiler.Text.Basic

/-!
# Faults of JSON texts

What can be wrong with a text that should be JSON, and where.  Places are counted in lines from 1 and
in bytes within the line: the column of a character that may not stand where it does is the number of
bytes up to and including its first one.

* `Fault` — what is wrong.
* `Place` — where; `Place.behind` — the place behind a number of bytes.
* `ReadError` — the two together.
* `Stop`, `Reading` — what a reader gives that knows only the text that is left.
-/

namespace SchemaCompiler.Json

open Text

/-! ## Faults -/

/-- What is wrong with a text that is no JSON. -/
inductive Fault where
  | unfinishedArray
  | unfinishedObject
  | unfinishedString
  | unfinishedValue
  | missingColon
  /-- Neither a comma nor the end stands behind an item of an array. -/
  | missingItemEnd
  /-- Neither a comma nor the end stands behind a field of an object. -/
  | missingFieldEnd
  | misspeltWord
  | missingValue
  | unknownEscape
  | malformedNumber
  | numberTooLarge
  | controlCharacter
  | keyNotString
  | loneSurrogate
  /-- The first half of a pair of code units without the second. -/
  | unfinishedPair
  | trailingComma
  | trailingText
  | nestedTooDeeply
  deriving DecidableEq, Repr

/-- The fault in words. -/
def Fault.message : Fault → String
  | .unfinishedArray => "EOF while parsing a list"
  | .unfinishedObject => "EOF while parsing an object"
  | .unfinishedString => "EOF while parsing a string"
  | .unfinishedValue => "EOF while parsing a value"
  | .missingColon => "expected \x60:\x60"
  | .missingItemEnd => "expected \x60,\x60 or \x60]\x60"
  | .missingFieldEnd => "expected \x60,\x60 or \x60\x7d\x60"
  | .misspeltWord => "expected ident"
  | .missingValue => "expected value"
  | .unknownEscape => "invalid escape"
  | .malformedNumber => "invalid number"
  | .numberTooLarge => "number out of range"
  | .controlCharacter => "control character (\\u0000-\\u001F) found while parsing a string"
  | .keyNotString => "key must be a string"
  | .loneSurrogate => "lone leading surrogate in hex escape"
  | .unfinishedPair => "unexpected end of hex escape"
  | .trailingComma => "trailing comma"
  | .trailingText => "trailing characters"
  | .nestedTooDeeply => "recursion limit exceeded"

/-! ## Places -/

/-- A place in a text: its line, counted from 1, and the bytes before it in the line. -/
structure Place where
  line : Nat
  column : Nat
  deriving DecidableEq, Repr

/-- The beginning of a text. -/
def Place.start : Place := ⟨1, 0⟩

/-- The place that lies a number of bytes further, or at the end of the text. -/
def Place.advance (p : Place) (bytes : Nat) : List Char → Place
  | [] => p
  | c :: rest =>
    if bytes = 0 then p
    else if c = '\n' then Place.advance ⟨p.line + 1, 0⟩ (bytes - 1) rest
    else if bytes < c.utf8Size then ⟨p.line, p.column + bytes⟩
    else Place.advance ⟨p.line, p.column + c.utf8Size⟩ (bytes - c.utf8Size) rest

/-- The place behind the first bytes of a text. -/
def Place.behind (bytes : Nat) (text : List Char) : Place := Place.start.advance bytes text

/-- A fault and its place. -/
structure ReadError where
  fault : Fault
  place : Place
  deriving DecidableEq, Repr

/-- The error in words. -/
def ReadError.message (e : ReadError) : String :=
  e.fault.message ++ " at line " ++ decimal e.place.line ++ " column "
    ++ decimal e.place.column

/-! ## Readers -/

/-- Where a reader stopped: the text that it had left, and how many bytes of it lie before the place
of the fault. -/
structure Stop where
  fault : Fault
  left : List Char
  passed : Nat
  deriving DecidableEq, Repr

/-- The error of a reader of a whole text.  No place lies behind the end of the text. -/
def Stop.toError (text : List Char) (s : Stop) : ReadError :=
  ⟨s.fault, .behind (byteCount text - byteCount s.left + s.passed) text⟩

/-- What a reader gives: a value and the text behind it, or the place where it stopped. -/
abbrev Reading (α : Type) := Except Stop (α × List Char)

/-- Stops at the first character of a text, which may not stand there, or at the end. -/
def stopAt {α : Type} (fault : Fault) (left : List Char) : Reading α := .error ⟨fault, left, 1⟩

/-- Stops before a text, because of what stands before it. -/
def stopBefore {α : Type} (fault : Fault) (left : List Char) : Reading α := .error ⟨fault, left, 0⟩

/-- Stops at the end of the whole text. -/
def stopAtEnd {α : Type} (fault : Fault) : Reading α := stopBefore fault []

end SchemaCompiler.Json

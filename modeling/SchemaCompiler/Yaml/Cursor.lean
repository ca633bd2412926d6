import SchemaCompiler.Text.Basic

/-!
# Places in a YAML text

In YAML the column in which something stands decides what it belongs to, so the text is read by a
cursor that knows its column.  Line breaks and blanks between words mean little by themselves; a gap
collects what the readers of scalars need to know about them.

* `isBreak`, `isBlank`, `isEnd` — the classes of characters.
* `Cursor`, `Cursor.forward`, `Cursor.nextLine` — a place, and the steps from it.
* `Gap`, `Cursor.gap` — a run of blanks and line breaks.
-/

namespace SchemaCompiler.Yaml

/-! ## Characters -/

/-- The characters that may stand in a text. -/
def isAllowed (c : Char) : Bool :=
  c == '\t' || c == '\n' || c == '\r' || (0x20 ≤ c.toNat && c.toNat ≤ 0x7E) || c == '\u0085'
    || (0xA0 ≤ c.toNat && c.toNat ≤ 0xFFFD) || 0x10000 ≤ c.toNat

/-- The characters that end a line. -/
def isBreak (c : Char) : Bool :=
  c == '\n' || c == '\r' || c == '\u0085' || c == '\u2028' || c == '\u2029'

/-- The characters that separate words on a line. -/
def isBlank (c : Char) : Bool := c == ' ' || c == '\t'

/-- The characters of anchors, of handles and of names of directives. -/
def isWordChar (c : Char) : Bool := c.isAlphanum || c == '_' || c == '-'

/-- Whether a word ends before a text: the text is empty or begins with a blank or a line break. -/
def isEnd : List Char → Bool
  | [] => true
  | c :: _ => isBlank c || isBreak c

/-- Whether a text begins with a character. -/
def beginsWith (c : Char) (cs : List Char) : Bool := cs.head? == some c

/-- Whether a text begins with a blank. -/
def beginsBlank (cs : List Char) : Bool := cs.head?.any isBlank

/-- Whether a text begins with a line break. -/
def beginsBreak (cs : List Char) : Bool := cs.head?.any isBreak

/-- Whether a text is empty or begins with a line break. -/
def beginsLineEnd (cs : List Char) : Bool := cs.isEmpty || beginsBreak cs

/-- A line break as it is kept in a scalar: a line feed, but for the two breaks that Unicode made. -/
def keptBreak (c : Char) : Char := if c == '\u2028' || c == '\u2029' then c else '\n'

/-! ## The cursor -/

/-- A place in a text: what follows, the bytes and the lines before it, and the characters before it on
its line. -/
structure Cursor where
  rest : List Char
  offset : Nat := 0
  line : Nat := 0
  column : Nat := 0

namespace Cursor

/-- The place a number of characters further on the same line. -/
def forward (c : Cursor) (n : Nat) : Cursor :=
  { c with
    rest := c.rest.drop n
    offset := c.offset + Text.byteCount (c.rest.take n)
    column := c.column + n }

/-- The place behind the longest run of characters of a class, which holds no line break. -/
def forwardWhile (c : Cursor) (p : Char → Bool) : Cursor := c.forward (c.rest.takeWhile p).length

/-- The place behind a mark of the byte order, which may stand at the beginning of a line and takes a
column there. -/
def skipByteOrderMark (c : Cursor) : Cursor :=
  if c.column == 0 && beginsWith '\ufeff' c.rest then c.forward 1 else c

/-- The place behind the blanks. -/
def skipBlanks (c : Cursor) : Cursor := c.forwardWhile isBlank

/-- The place at the end of the line. -/
def toLineEnd (c : Cursor) : Cursor := c.forwardWhile (!isBreak ·)

/-- The place behind a comment, if one begins here. -/
def skipComment (c : Cursor) : Cursor := if beginsWith '#' c.rest then c.toLineEnd else c

/-- The beginning of the next line, seen from the end of a line. -/
def nextLine (c : Cursor) : Cursor :=
  match c.rest with
  | '\r' :: '\n' :: rest => ⟨rest, c.offset + 2, c.line + 1, 0⟩
  | d :: rest => if isBreak d then ⟨rest, c.offset + d.utf8Size, c.line + 1, 0⟩ else c
  | [] => c

/-- The beginning of the next line, if only blanks and a comment are left on this one. -/
def endLine? (c : Cursor) : Option Cursor :=
  let c := c.skipBlanks.skipComment
  if beginsLineEnd c.rest then some c.nextLine else none

/-- Whether a line begins here with a mark of three characters that stands alone. -/
def atMark (c : Cursor) (mark : Char) : Bool :=
  c.column == 0 && c.rest.take 3 == [mark, mark, mark] && isEnd (c.rest.drop 3)

/-- Whether a document begins or ends here. -/
def atDocumentMark (c : Cursor) : Bool := c.atMark '-' || c.atMark '.'

end Cursor

/-! ## Gaps -/

/-- A run of blanks and line breaks: the blanks before the first break, the breaks, and the columns of
the tabs behind a break. -/
structure Gap where
  blanks : List Char := []
  breaks : List Char := []
  tabs : List Nat := []

namespace Gap

/-- The gap with one more blank.  A blank behind a break counts for nothing but its column. -/
def addBlank (g : Gap) (column : Nat) (c : Char) : Gap :=
  if g.breaks.isEmpty then { g with blanks := g.blanks ++ [c] }
  else if c = '\t' then { g with tabs := column :: g.tabs }
  else g

/-- The gap with one more line break. -/
def addBreak (g : Gap) (c : Char) : Gap := { g with breaks := g.breaks ++ [keptBreak c] }

/-- What a gap stands for in a scalar: its blanks if it has no break; a single line feed becomes a
blank, and of several breaks a line feed at the front is dropped. -/
def folded (g : Gap) : List Char :=
  match g.breaks with
  | [] => g.blanks
  | ['\n'] => [' ']
  | '\n' :: more => more
  | breaks => breaks

/-- Goes on with a gap from a place. -/
def go (g : Gap) (offset line column : Nat) : List Char → Gap × Cursor
  | '\r' :: '\n' :: rest => (g.addBreak '\n').go (offset + 2) (line + 1) 0 rest
  | c :: rest =>
    if isBreak c then (g.addBreak c).go (offset + c.utf8Size) (line + 1) 0 rest
    else if isBlank c then (g.addBlank column c).go (offset + 1) line (column + 1) rest
    else (g, ⟨c :: rest, offset, line, column⟩)
  | [] => (g, ⟨[], offset, line, column⟩)

end Gap

/-- The gap at a place, and the place behind it. -/
def Cursor.gap (c : Cursor) : Gap × Cursor := Gap.go {} c.offset c.line c.column c.rest

end SchemaCompiler.Yaml

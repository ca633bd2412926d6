import SchemaCompiler.Yaml.Cursor

/-!
# The text of scalars

YAML writes a scalar in five styles: plain, between single or double quotes, and as a block whose lines
are kept or folded.  A reader takes the cursor to the first character of the scalar and gives its text
and the place behind it.  All readers take fuel, of which one unit is used for each character at most.

* `readSingle`, `readDouble` — quoted scalars.
* `readPlain` — plain scalars; they end where the indentation does.
* `readBlock` — block scalars.
-/

namespace SchemaCompiler.Yaml

/-! ## Quoted scalars -/

/-- The inside of a scalar between single quotes, of which a doubled one stands for one. -/
def readSingle : (fuel : Nat) → Cursor → Option (List Char × Cursor)
  | 0, _ => none
  | fuel + 1, c =>
    if c.atDocumentMark then none
    else
      match c.rest with
      | [] => none
      | '\'' :: '\'' :: _ =>
        (readSingle fuel (c.forward 2)).map fun (text, c) => ('\'' :: text, c)
      | '\'' :: _ => some ([], c.forward 1)
      | d :: _ =>
        if isBlank d || isBreak d then
          let (gap, c) := c.gap
          (readSingle fuel c).map fun (text, c) => (gap.folded ++ text, c)
        else (readSingle fuel (c.forward 1)).map fun (text, c) => (d :: text, c)

/-- The character that a letter stands for behind a backslash. -/
def shortEscape : Char → Option Char
  | '0' => some '\x00'
  | 'a' => some '\x07'
  | 'b' => some '\x08'
  | 't' | '\t' => some '\t'
  | 'n' => some '\n'
  | 'v' => some '\x0b'
  | 'f' => some '\x0c'
  | 'r' => some '\r'
  | 'e' => some '\x1b'
  | ' ' => some ' '
  | '"' => some '"'
  | '/' => some '/'
  | '\\' => some '\\'
  | 'N' => some '\u0085'
  | '_' => some '\u00a0'
  | 'L' => some '\u2028'
  | 'P' => some '\u2029'
  | _ => none

/-- The number of hexadecimal digits behind a letter that is followed by them. -/
def escapeLength : Char → Option Nat
  | 'x' => some 2
  | 'u' => some 4
  | 'U' => some 8
  | _ => none

/-- The character whose number is written by a run of hexadecimal digits of a length. -/
def hexChar (length : Nat) (digits : List Char) : Option Char := do
  if digits.length = length then
    let n ← Text.hexNumber digits
    if n.isValidChar then return Char.ofNat n else none
  else none

/-- The character that an escape stands for, given the text behind the backslash, and the number of
characters that it takes there. -/
def readEscape : List Char → Option (Char × Nat)
  | [] => none
  | letter :: rest =>
    match escapeLength letter with
    | some length => (hexChar length (rest.take length)).map (·, length + 1)
    | none => (shortEscape letter).map (·, 1)

/-- The inside of a scalar between double quotes.  An escaped line break takes the blanks around it
away. -/
def readDouble : (fuel : Nat) → Cursor → Option (List Char × Cursor)
  | 0, _ => none
  | fuel + 1, c =>
    if c.atDocumentMark then none
    else
      match c.rest with
      | [] => none
      | '"' :: _ => some ([], c.forward 1)
      | '\\' :: rest =>
        if beginsBreak rest then
          let (gap, c) := (c.forward 1).nextLine.gap
          (readDouble fuel c).map fun (text, c) => (gap.breaks ++ text, c)
        else
          match readEscape rest with
          | none => none
          | some (d, length) =>
            (readDouble fuel (c.forward (length + 1))).map fun (text, c) => (d :: text, c)
      | d :: _ =>
        if isBlank d || isBreak d then
          let (gap, c) := c.gap
          (readDouble fuel c).map fun (text, c) => (gap.folded ++ text, c)
        else (readDouble fuel (c.forward 1)).map fun (text, c) => (d :: text, c)

/-! ## Plain scalars -/

/-- The characters that separate the parts of a flow collection. -/
def isFlowMark (c : Char) : Bool := [',', '[', ']', '\x7b', '\x7d'].contains c

/-- A word of a plain scalar, which may be empty.  Inside of a flow collection a colon must not stand
before a mark of the collection. -/
def plainWord (flow : Bool) : List Char → Option (List Char)
  | [] => some []
  | c :: rest =>
    if isBlank c || isBreak c then some []
    else if flow && c = ':' && rest.head?.any (fun d => isFlowMark d || d == '?') then none
    else if (c = ':' && isEnd rest) || (flow && isFlowMark c) then some []
    else (plainWord flow rest).map (c :: ·)

/-- The rest of a plain scalar from the beginning of a word on, where `gap` is what stands before the
word.  Outside of flow collections the scalar ends before a line that begins left of `indent`.  The
flag says whether the scalar is followed by a line break. -/
def plainWords (flow : Bool) (indent : Nat) :
    (fuel : Nat) → Gap → Cursor → Option (List Char × Bool × Cursor)
  | 0, _, _ => none
  | fuel + 1, gap, c =>
    if c.atDocumentMark || beginsWith '#' c.rest then some ([], !gap.breaks.isEmpty, c)
    else
      match plainWord flow c.rest with
      | none => none
      | some [] => some ([], !gap.breaks.isEmpty, c)
      | some word =>
        let text := gap.folded ++ word
        let c := c.forward word.length
        if c.rest.isEmpty || !isEnd c.rest then some (text, false, c)
        else
          let (gap, c) := c.gap
          if gap.tabs.any (· < indent) then none
          else if !flow && c.column < indent then some (text, !gap.breaks.isEmpty, c)
          else (plainWords flow indent fuel gap c).map fun (more, broken, c) =>
            (text ++ more, broken, c)

/-- A plain scalar. -/
def readPlain (flow : Bool) (indent fuel : Nat) (c : Cursor) :
    Option (List Char × Bool × Cursor) :=
  plainWords flow indent fuel {} c

/-! ## Block scalars -/

/-- What becomes of the line breaks at the end of a block scalar. -/
inductive Chomping where
  | strip
  | clip
  | keep
  deriving DecidableEq, Repr

/-- The indicators behind the mark of a block scalar: a sign and a digit in either order. -/
structure BlockHeader where
  chomping : Chomping := .clip
  /-- How far the block is indented against what it belongs to; zero if that is left open. -/
  increment : Nat := 0

/-- The sign at the front of a text, and the number of characters it takes. -/
def chompingSign : List Char → Chomping × Nat
  | '+' :: _ => (.keep, 1)
  | '-' :: _ => (.strip, 1)
  | _ => (.clip, 0)

/-- The digit at the front of a text, and the number of characters it takes; it is not zero. -/
def incrementDigit : List Char → Option (Nat × Nat)
  | c :: _ =>
    if c = '0' then none
    else if c.isDigit then some (c.toNat - '0'.toNat, 1)
    else some (0, 0)
  | [] => some (0, 0)

/-- The indicators behind the mark. -/
def readBlockHeader (c : Cursor) : Option (BlockHeader × Cursor) := do
  let (first, signLength) := chompingSign c.rest
  let c := c.forward signLength
  let (increment, digitLength) ← incrementDigit c.rest
  let c := c.forward digitLength
  let (last, signLength) :=
    if first = .clip && digitLength = 1 then chompingSign c.rest else (first, 0)
  return (⟨last, increment⟩, c.forward signLength)

/-- The place behind the blanks that belong to the indentation; without `indent` all do. -/
def skipIndentation (indent : Option Nat) (c : Cursor) : Cursor :=
  let blanks := (c.rest.takeWhile (· == ' ')).length
  match indent with
  | none => c.forward blanks
  | some indent => c.forward (min blanks (indent - c.column))

/-- The breaks of the empty lines at a place, the largest column reached, and the place behind them and
behind the indentation of the line that follows. -/
def emptyLines (indent : Option Nat) :
    (fuel : Nat) → (reached : Nat) → Cursor → Option (List Char × Nat × Cursor)
  | 0, _, _ => none
  | fuel + 1, reached, c =>
    let c := skipIndentation indent c
    let reached := max reached c.column
    if indent.all (c.column < ·) && beginsWith '\t' c.rest then none
    else
      match c.rest with
      | d :: _ =>
        if isBreak d then
          (emptyLines indent fuel reached c.nextLine).map fun (breaks, reached, c) =>
            (keptBreak d :: breaks, reached, c)
        else some ([], reached, c)
      | [] => some ([], reached, c)

/-- What stands between two lines of a block, given the break at the end of the first one, the breaks
of the empty lines that follow it, and whether a line begins with a blank.  In a folded block a line
feed between two lines that do not begin with blanks becomes a blank, or disappears before empty
lines. -/
def lineJoint (literal : Bool) (lineBreak empty : List Char) (indented : Bool) : List Char :=
  if !literal && lineBreak == ['\n'] && !indented then
    if empty.isEmpty then [' '] else empty
  else lineBreak ++ empty

/-- The lines of a block that is indented by `indent`.  `lineBreak`, `empty` and `wasIndented` tell of
what came before: the break at the end of the last line, the breaks of the empty lines behind it, and
whether it began with a blank.  Returns the text and the breaks behind it. -/
def blockLines (literal : Bool) (indent : Nat) :
    (fuel : Nat) → (lineBreak empty : List Char) → (wasIndented : Bool) → Cursor →
      Option (List Char × List Char × List Char × Cursor)
  | 0, _, _, _, _ => none
  | fuel + 1, lineBreak, empty, wasIndented, c =>
    if c.column = indent && !c.rest.isEmpty then do
      let indented := beginsBlank c.rest
      let joint := lineJoint literal lineBreak empty (wasIndented || indented)
      let text := joint ++ c.rest.takeWhile (!isBreak ·)
      let c := c.toLineEnd
      let lineBreak := (c.rest.take 1).map keptBreak
      let (empty, _, c) ← emptyLines (some indent) fuel 0 c.nextLine
      let (more, ending) ← blockLines literal indent fuel lineBreak empty indented c
      return (text ++ more, ending)
    else some ([], lineBreak, empty, c)

/-- What is kept of the breaks behind a block. -/
def chomped (chomping : Chomping) (lineBreak empty : List Char) : List Char :=
  match chomping with
  | .strip => []
  | .clip => lineBreak
  | .keep => lineBreak ++ empty

/-- A block scalar behind its mark.  `inner` is the least column of what belongs to the block around it,
and `outer` the column from which the increment is counted. -/
def readBlock (literal : Bool) (outer inner fuel : Nat) (c : Cursor) :
    Option (List Char × Cursor) := do
  let (header, c) ← readBlockHeader c
  let c ← c.endLine?
  let stated := if header.increment = 0 then none else some (outer + header.increment)
  let (empty, reached, c) ← emptyLines stated fuel 0 c
  let indent := stated.getD (max reached (max inner 1))
  let (text, lineBreak, empty, c) ← blockLines literal indent fuel [] empty false c
  return (text ++ chomped header.chomping lineBreak empty, c)

end SchemaCompiler.Yaml

import SchemaCompiler.Yaml.Token

/-!
# From text to tokens

A text is cut into tokens from left to right.  Whether a scalar or a collection is a key shows only at
the colon behind it, so a place where a key may begin is remembered, and the token that announces the
key is put in front of it later.  A key without a mark of its own has to end on its line, and within
1024 bytes.

Outside of flow collections the columns of the open blocks are kept; a token further to the left ends
the blocks that are indented deeper.

* `Found` — the tokens so far.
* `PossibleKey` — a place where a key may have begun.
* `Scanner` — the state between two tokens.
* `Scanner.next` — one more step.
* `tokens` — the tokens of a text.
-/

namespace SchemaCompiler.Yaml

/-- The tokens so far, the latest one first, and their number. -/
structure Found where
  latest : List Token := []
  count : Nat := 0
  count_eq : count = latest.length := by rfl

namespace Found

/-- One more token. -/
def push (f : Found) (t : Token) : Found :=
  ⟨t :: f.latest, f.count + 1, by simp [f.count_eq]⟩

/-- More tokens, the last of them first. -/
def pushAll (f : Found) (ts : List Token) : Found :=
  ⟨ts ++ f.latest, ts.length + f.count, by simp [f.count_eq]⟩

/-- A token behind the first `before` ones. -/
def insert (f : Found) (before : Nat) (t : Token) : Found :=
  let later := f.count - before
  ⟨f.latest.take later ++ t :: f.latest.drop later, f.count + 1, by
    have := f.count_eq
    simp only [List.length_append, List.length_cons, List.length_take, List.length_drop]
    omega⟩

/-- The tokens in their order. -/
def toList (f : Found) : List Token := f.latest.reverse

end Found

/-- A place where a key without a mark may have begun. -/
structure PossibleKey where
  /-- The number of tokens before the key. -/
  tokensBefore : Nat
  /-- Whether nothing but a key can stand here. -/
  required : Bool
  offset : Nat
  line : Nat
  column : Nat

/-- The state between two tokens. -/
structure Scanner where
  cursor : Cursor
  found : Found := {}
  /-- The columns of the open blocks, the innermost one first. -/
  indents : List Nat := []
  /-- Whether a key without a mark may begin here. -/
  keyAllowed : Bool := true
  /-- The possible key on the current level. -/
  possibleKey : Option PossibleKey := none
  /-- The possible keys around the open flow collections, the innermost one first. -/
  outerKeys : List (Option PossibleKey) := []

namespace Scanner

/-! ## Parts of the state -/

/-- Whether a flow collection is open. -/
def inFlow (s : Scanner) : Bool := !s.outerKeys.isEmpty

/-- The column of the innermost block, zero without one. -/
def outerColumn (s : Scanner) : Nat := s.indents.head?.getD 0

/-- The least column of what belongs to the innermost block. -/
def innerColumn (s : Scanner) : Nat :=
  match s.indents with
  | [] => 0
  | i :: _ => i + 1

/-- The state with one more token. -/
def emit (s : Scanner) (t : Token) : Scanner := { s with found := s.found.push t }

/-- Puts a token behind the first `before` ones. -/
def emitAt (s : Scanner) (before : Nat) (t : Token) : Scanner :=
  { s with found := s.found.insert before t }

/-- The state with the cursor further on. -/
def moveTo (s : Scanner) (c : Cursor) : Scanner := { s with cursor := c }

/-- The state with keys allowed or not. -/
def allowKey (s : Scanner) (allowed : Bool) : Scanner := { s with keyAllowed := allowed }

/-- Whether a block would be opened by something in a column. -/
def isDeeper (s : Scanner) (column : Nat) : Bool := !s.inFlow && s.innerColumn ≤ column

/-- Opens a block in a column. -/
def open_ (s : Scanner) (column : Nat) : Scanner := { s with indents := column :: s.indents }

/-- Opens a block in a column, if it lies deeper than the innermost one, and announces it by a token. -/
def openBlock (s : Scanner) (column : Nat) (t : Token) : Scanner :=
  if s.isDeeper column then (s.open_ column).emit t else s

/-- The blocks that stay open at a column, and one token for each block that ends. -/
def closing (column : Nat) : List Nat → List Nat × List Token
  | [] => ([], [])
  | i :: rest =>
    if column < i then
      let (left, ends) := closing column rest
      (left, .blockEnd :: ends)
    else (i :: rest, [])

/-- Ends the blocks that lie deeper than a column. -/
def closeBlocks (s : Scanner) (column : Nat) : Scanner :=
  if s.inFlow then s
  else
    let (left, ends) := closing column s.indents
    { s with indents := left, found := s.found.pushAll ends }

/-- Ends all blocks. -/
def closeAllBlocks (s : Scanner) : Scanner :=
  if s.inFlow then s
  else { s with indents := [], found := s.found.pushAll (s.indents.map fun _ => Token.blockEnd) }

/-! ## Possible keys -/

/-- Gives up the possible key on the current level, unless it is required. -/
def dropKey (s : Scanner) : Option Scanner :=
  if s.possibleKey.any (·.required) then none else some { s with possibleKey := none }

/-- Remembers that a key may begin at the cursor. -/
def saveKey (s : Scanner) : Option Scanner :=
  if s.keyAllowed then do
    let c := s.cursor
    let required := !s.inFlow && s.indents.head? == some c.column
    let s ← s.dropKey
    return { s with possibleKey := some ⟨s.found.count, required, c.offset, c.line, c.column⟩ }
  else some s

/-- Whether a place lies too far behind for a key that begins there. -/
def isStale (c : Cursor) (k : PossibleKey) : Bool := k.line < c.line || k.offset + 1024 < c.offset

/-- Gives up the possible key on the current level if it lies too far behind, unless it is required.  A
key around an open flow collection is looked at when the collection has ended. -/
def refreshKey (s : Scanner) : Option Scanner :=
  if s.possibleKey.any (isStale s.cursor) then s.dropKey else some s

/-! ## Between tokens -/

/-- Goes to the next token.  A mark of the byte order counts for nothing but its column, and a tab is no
blank where it could pass for indentation. -/
def skipGap : (fuel : Nat) → Scanner → Scanner
  | 0, s => s
  | fuel + 1, s =>
    let isGap (d : Char) : Bool := d == ' ' || ((s.inFlow || !s.keyAllowed) && d == '\t')
    let c := (s.cursor.skipByteOrderMark.forwardWhile isGap).skipComment
    if beginsBreak c.rest then skipGap fuel ((s.moveTo c.nextLine).allowKey (s.keyAllowed || !s.inFlow))
    else s.moveTo c

/-! ## Tokens -/

/-- A mark between documents. -/
def documentMark (s : Scanner) (t : Token) : Option Scanner := do
  let s ← s.closeAllBlocks.dropKey
  return ((s.emit t).moveTo (s.cursor.forward 3)).allowKey false

/-- A directive. -/
def directive (s : Scanner) (fuel : Nat) : Option Scanner := do
  let s ← s.closeAllBlocks.dropKey
  let (t, c) ← readDirective fuel s.cursor
  return ((s.emit t).moveTo c).allowKey false

/-- The beginning of a flow collection, which may itself be a key. -/
def flowStart (s : Scanner) (t : Token) : Option Scanner := do
  let s ← s.saveKey
  let s := { s with outerKeys := s.possibleKey :: s.outerKeys, possibleKey := none }
  return ((s.emit t).moveTo (s.cursor.forward 1)).allowKey true

/-- The end of a flow collection. -/
def flowEnd (s : Scanner) (t : Token) : Option Scanner := do
  let s ← s.dropKey
  let s := match s.outerKeys with
    | [] => s
    | k :: outer => { s with possibleKey := k, outerKeys := outer }
  return ((s.emit t).moveTo (s.cursor.forward 1)).allowKey false

/-- A comma in a flow collection. -/
def flowEntry (s : Scanner) : Option Scanner := do
  let s ← s.dropKey
  return ((s.emit .flowEntry).moveTo (s.cursor.forward 1)).allowKey true

/-- A hyphen before an item of a sequence. -/
def blockEntry (s : Scanner) : Option Scanner := do
  if !s.inFlow && !s.keyAllowed then none
  else
    let s ← (s.openBlock s.cursor.column .blockSequenceStart).dropKey
    return ((s.emit .blockEntry).moveTo (s.cursor.forward 1)).allowKey true

/-- A question mark before a key. -/
def keyMark (s : Scanner) : Option Scanner := do
  if !s.inFlow && !s.keyAllowed then none
  else
    let s ← (s.openBlock s.cursor.column .blockMappingStart).dropKey
    return ((s.emit .key).moveTo (s.cursor.forward 1)).allowKey (!s.inFlow)

/-- Announces a key that has turned out to be one. -/
def announceKey (s : Scanner) (k : PossibleKey) : Scanner :=
  let s := s.emitAt k.tokensBefore .key
  let s := if s.isDeeper k.column then
      (s.open_ k.column).emitAt k.tokensBefore .blockMappingStart
    else s
  { s with possibleKey := none, keyAllowed := false }

/-- A colon before a value. -/
def valueMark (s : Scanner) : Option Scanner := do
  let s ← match s.possibleKey with
    | some k => some (s.announceKey k)
    | none =>
      if !s.inFlow && !s.keyAllowed then none
      else some ((s.openBlock s.cursor.column .blockMappingStart).allowKey (!s.inFlow))
  return (s.emit .value).moveTo (s.cursor.forward 1)

/-- An anchor or an alias. -/
def anchor (s : Scanner) (make : String → Token) : Option Scanner := do
  let s ← s.saveKey
  let (name, c) ← readAnchor s.cursor
  return ((s.emit (make name)).moveTo c).allowKey false

/-- A tag. -/
def tag (s : Scanner) (fuel : Nat) : Option Scanner := do
  let s ← s.saveKey
  let (t, c) ← readTag s.inFlow fuel s.cursor
  return ((s.emit t).moveTo c).allowKey false

/-- A block scalar. -/
def blockScalar (s : Scanner) (literal : Bool) (fuel : Nat) : Option Scanner := do
  let s ← s.dropKey
  let (text, c) ← readBlock literal s.outerColumn s.innerColumn fuel (s.cursor.forward 1)
  return ((s.emit (.scalar false (String.ofList text))).moveTo c).allowKey true

/-- A quoted scalar. -/
def quotedScalar (s : Scanner) (read : Nat → Cursor → Option (List Char × Cursor)) (fuel : Nat) :
    Option Scanner := do
  let s ← s.saveKey
  let (text, c) ← read fuel (s.cursor.forward 1)
  return ((s.emit (.scalar false (String.ofList text))).moveTo c).allowKey false

/-- A plain scalar; behind a line break a key may follow it. -/
def plainScalar (s : Scanner) (fuel : Nat) : Option Scanner := do
  let s ← s.saveKey
  let (text, broken, c) ← readPlain s.inFlow s.innerColumn fuel s.cursor
  return ((s.emit (.scalar true (String.ofList text))).moveTo c).allowKey broken

/-- The characters that cannot begin a plain scalar. -/
def isIndicator (c : Char) : Bool :=
  ['-', '?', ':', ',', '[', ']', '\x7b', '\x7d', '#', '&', '*', '!', '|', '>', '\'', '"', '%', '@',
    '\x60'].contains c

/-- Whether a plain scalar begins with a character that `rest` follows.  Some indicators may begin one
where they cannot be what they otherwise are. -/
def beginsPlain (flow : Bool) (c : Char) (rest : List Char) : Bool :=
  !(isBlank c || isBreak c || isIndicator c)
    || (c == '-' && !beginsBlank rest)
    || (!flow && (c == '?' || c == ':') && !isEnd rest)

/-- The token at the cursor, which begins with `c`. -/
def token (s : Scanner) (fuel : Nat) (c : Char) (rest : List Char) : Option Scanner :=
  if s.cursor.column = 0 && c = '%' then s.directive fuel
  else if s.cursor.atMark '-' then s.documentMark .documentStart
  else if s.cursor.atMark '.' then s.documentMark .documentEnd
  else if c = '[' then s.flowStart .flowSequenceStart
  else if c = '\x7b' then s.flowStart .flowMappingStart
  else if c = ']' then s.flowEnd .flowSequenceEnd
  else if c = '\x7d' then s.flowEnd .flowMappingEnd
  else if c = ',' then s.flowEntry
  else if c = '-' && isEnd rest then s.blockEntry
  else if c = '?' && (s.inFlow || isEnd rest) then s.keyMark
  else if c = ':' && (s.inFlow || isEnd rest) then s.valueMark
  else if c = '*' then s.anchor .alias
  else if c = '&' then s.anchor .anchor
  else if c = '!' then s.tag fuel
  else if c = '|' && !s.inFlow then s.blockScalar true fuel
  else if c = '>' && !s.inFlow then s.blockScalar false fuel
  else if c = '\'' then s.quotedScalar readSingle fuel
  else if c = '"' then s.quotedScalar readDouble fuel
  else if beginsPlain s.inFlow c rest then s.plainScalar fuel
  else none

/-- Goes to the next token and reads it; at the end of the text all tokens are complete. -/
def scan : (fuel : Nat) → Scanner → Option (List Token)
  | 0, _ => none
  | fuel + 1, s => do
    let s ← (s.skipGap (fuel + 1)).refreshKey
    let s := s.closeBlocks s.cursor.column
    match s.cursor.rest with
    | [] => return (← s.closeAllBlocks.dropKey).found.toList
    | c :: rest => scan fuel (← s.token (fuel + 1) c rest)

end Scanner

/-- The tokens of a text.  Every token takes a character at least, so the number of characters is
enough fuel. -/
def tokens (cs : List Char) : Option (List Token) :=
  if cs.all isAllowed then Scanner.scan (cs.length + 1) { cursor := { rest := cs } } else none

end SchemaCompiler.Yaml

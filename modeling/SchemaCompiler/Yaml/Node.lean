import SchemaCompiler.Yaml.Tokens

/-!
# From tokens to nodes

A document is a tree of scalars, sequences and mappings.  A node may have a tag, and a mark by which
other places of the document refer to it.

A mark is a number: the number of different names that anchors had before it.  A reference is to the
mark that its name has where it stands.

* `Node` — the trees.
* `Node.marks` — the nodes with marks.
* `Node.ofTokens?` — the only document of a list of tokens.
-/

namespace SchemaCompiler.Yaml

/-- A node of a document. -/
inductive Node where
  | scalar (tag : Option String) (plain : Bool) (text : String)
  | sequence (tag : Option String) (items : List Node)
  | mapping (tag : Option String) (pairs : List (Node × Node))
  /-- A node that can be referred to. -/
  | marked (mark : Nat) (node : Node)
  /-- A reference to a node with a mark. -/
  | reference (mark : Nat)
  deriving Repr

namespace Node

/-- What stands where the text leaves a node out. -/
def missing : Node := .scalar none true ""

/-! ## Views -/

mutual

/-- The nodes with marks, each before those inside of it. -/
def marks : Node → List (Nat × Node)
  | .scalar .. | .reference _ => []
  | .sequence _ items => marksOfItems items
  | .mapping _ pairs => marksOfPairs pairs
  | .marked mark node => (mark, node) :: marks node

/-- The nodes with marks among the items of a sequence. -/
def marksOfItems : List Node → List (Nat × Node)
  | [] => []
  | x :: rest => marks x ++ marksOfItems rest

/-- The nodes with marks among the pairs of a mapping. -/
def marksOfPairs : List (Node × Node) → List (Nat × Node)
  | [] => []
  | (key, value) :: rest => marks key ++ marks value ++ marksOfPairs rest

end

mutual

/-- The size of a node: a collection counts twice, for its beginning and its end. -/
def size : Node → Nat
  | .scalar .. | .reference _ => 1
  | .sequence _ items => 2 + sizeOfItems items
  | .mapping _ pairs => 2 + sizeOfPairs pairs
  | .marked _ node => size node

/-- The size of the items of a sequence. -/
def sizeOfItems : List Node → Nat
  | [] => 0
  | x :: rest => size x + sizeOfItems rest

/-- The size of the pairs of a mapping. -/
def sizeOfPairs : List (Node × Node) → Nat
  | [] => 0
  | (key, value) :: rest => size key + size value + sizeOfPairs rest

end

end Node

/-! ## Directives -/

/-- Short forms for the beginnings of tags.  What one stands for may be no text at all. -/
abbrev Shorthands := List (String × Option String)

/-- What the directives of a document say: whether there was a version, and the short forms of tags. -/
structure Directives where
  hasVersion : Bool := false
  shorthands : Shorthands := []

/-- The versions that can be read. -/
def isKnownVersion (major minor : Nat) : Bool := major == 1 && (minor == 1 || minor == 2)

/-- The directives at the front.  A version is stated once, and so is each short form. -/
def readDirectives (d : Directives) : List Token → Option (Directives × List Token)
  | .version major minor :: rest =>
    if d.hasVersion || !isKnownVersion major minor then none
    else readDirectives { d with hasVersion := true } rest
  | .shorthand handle image :: rest =>
    if (d.shorthands.lookup handle).isSome then none
    else readDirectives { d with shorthands := (handle, image) :: d.shorthands } rest
  | tokens => some (d, tokens)

/-- The short forms that need no directive; a directive may give them another meaning. -/
def knownShorthands : Shorthands := [("!", some "!"), ("!!", some "tag:yaml.org,2002:")]

/-- A tag in its long form.  A tag that is no text means nothing, like the empty one. -/
def longTag (shorthands : Shorthands) (handle : String) (suffix : Option String) : Option String :=
  if handle = "" then some (suffix.getD "")
  else
    ((shorthands ++ knownShorthands).lookup handle).map fun image =>
      match image, suffix with
      | some image, some suffix => image ++ suffix
      | _, _ => ""

/-! ## Nodes -/

/-- What is left to read, and the marks that the names of anchors have. -/
structure Reading where
  tokens : List Token
  names : List (String × Nat) := []

namespace Reading

/-- The state without its first token. -/
def skip (r : Reading) : Reading := { r with tokens := r.tokens.drop 1 }

/-- Whether the next token is among some. -/
def next (r : Reading) (among : List Token) : Bool := r.tokens.head?.any among.contains

/-- Gives a name the next mark. -/
def setName (name : String) (mark : Nat) : List (String × Nat) → List (String × Nat)
  | [] => [(name, mark)]
  | (n, m) :: rest => if n = name then (name, mark) :: rest else (n, m) :: setName name mark rest

/-- The next mark, given to a name. -/
def mark (r : Reading) (name : String) : Nat × Reading :=
  (r.names.length, { r with names := setName name r.names.length r.names })

end Reading

/-- What stands before a node: its tag and its mark. -/
structure Properties where
  tag : Option String := none
  mark : Option Nat := none

/-- The mark at the front, if there is one. -/
def readMark (p : Properties) (r : Reading) : Properties × Reading :=
  match r.tokens with
  | .anchor name :: _ =>
    let (mark, r) := r.mark name
    ({ p with mark := some mark }, r.skip)
  | _ => (p, r)

/-- The tag at the front, if there is one. -/
def readTagToken (shorthands : Shorthands) (p : Properties) (r : Reading) :
    Option (Properties × Reading) :=
  match r.tokens with
  | .tag handle suffix :: _ =>
    (longTag shorthands handle suffix).map fun tag => ({ p with tag := some tag }, r.skip)
  | _ => some (p, r)

/-- The tag and the mark at the front, in either order. -/
def readProperties (shorthands : Shorthands) (r : Reading) : Option (Properties × Reading) := do
  let (p, r) := readMark {} r
  let (p, r) ← readTagToken shorthands p r
  return if p.mark.isNone then readMark p r else (p, r)

/-- A node with its mark. -/
def Properties.attach (p : Properties) (node : Node) : Node :=
  match p.mark with
  | some mark => .marked mark node
  | none => node

/-- A node that was read, and what is left. -/
abbrev NodeRead := Option (Node × Reading)

mutual

/-- A node.  A block collection may stand only where `block` is set, and a sequence that is not indented
only where `flush` is. -/
def readNode (shorthands : Shorthands) : (fuel : Nat) → (block flush : Bool) → Reading → NodeRead
  | 0, _, _, _ => none
  | fuel + 1, block, flush, r =>
    match r.tokens with
    | .alias name :: _ => (r.names.lookup name).map fun mark => (.reference mark, r.skip)
    | _ => do
      let (p, r) ← readProperties shorthands r
      let (node, r) ← readContent shorthands fuel block flush p r
      return (p.attach node, r)

/-- A node behind its properties, which may be all there is of it. -/
def readContent (shorthands : Shorthands) :
    (fuel : Nat) → (block flush : Bool) → Properties → Reading → NodeRead
  | 0, _, _, _, _ => none
  | fuel + 1, block, flush, p, r =>
    match r.tokens, block, flush with
    | .blockEntry :: _, _, true =>
      (readFlushItems shorthands fuel r).map fun (xs, r) => (.sequence p.tag xs, r)
    | .scalar plain text :: _, _, _ => some (.scalar p.tag plain text, r.skip)
    | .flowSequenceStart :: _, _, _ =>
      (readFlowItems shorthands fuel true r.skip).map fun (xs, r) => (.sequence p.tag xs, r)
    | .flowMappingStart :: _, _, _ =>
      (readFlowPairs shorthands fuel true r.skip).map fun (ps, r) => (.mapping p.tag ps, r)
    | .blockSequenceStart :: _, true, _ =>
      (readBlockItems shorthands fuel r.skip).map fun (xs, r) => (.sequence p.tag xs, r)
    | .blockMappingStart :: _, true, _ =>
      (readBlockPairs shorthands fuel r.skip).map fun (ps, r) => (.mapping p.tag ps, r)
    | _, _, _ =>
      if p.tag.isSome || p.mark.isSome then some (.scalar p.tag true "", r) else none

/-- A node, unless one of some tokens shows that it was left out. -/
def readNodeUnless (shorthands : Shorthands) :
    (fuel : Nat) → List Token → (block flush : Bool) → Reading → NodeRead
  | 0, _, _, _, _ => none
  | fuel + 1, stops, block, flush, r =>
    if r.next stops then some (.missing, r) else readNode shorthands fuel block flush r

/-- The items of an indented sequence. -/
def readBlockItems (shorthands : Shorthands) : (fuel : Nat) → Reading → Option (List Node × Reading)
  | 0, _ => none
  | fuel + 1, r =>
    match r.tokens with
    | .blockEntry :: _ => do
      let (x, r) ← readNodeUnless shorthands fuel [.blockEntry, .blockEnd] true false r.skip
      let (xs, r) ← readBlockItems shorthands fuel r
      return (x :: xs, r)
    | .blockEnd :: _ => some ([], r.skip)
    | _ => none

/-- The items of a sequence in the column of the mapping that it is a value of. -/
def readFlushItems (shorthands : Shorthands) : (fuel : Nat) → Reading → Option (List Node × Reading)
  | 0, _ => none
  | fuel + 1, r =>
    match r.tokens with
    | .blockEntry :: _ => do
      let (x, r) ←
        readNodeUnless shorthands fuel [.blockEntry, .key, .value, .blockEnd] true false r.skip
      let (xs, r) ← readFlushItems shorthands fuel r
      return (x :: xs, r)
    | _ => some ([], r)

/-- The value of a pair, which may be left out. -/
def readValue (shorthands : Shorthands) :
    (fuel : Nat) → List Token → (block : Bool) → Reading → NodeRead
  | 0, _, _, _ => none
  | fuel + 1, stops, block, r =>
    match r.tokens with
    | .value :: _ => readNodeUnless shorthands fuel stops block block r.skip
    | _ => some (.missing, r)

/-- The pairs of an indented mapping. -/
def readBlockPairs (shorthands : Shorthands) :
    (fuel : Nat) → Reading → Option (List (Node × Node) × Reading)
  | 0, _ => none
  | fuel + 1, r =>
    match r.tokens with
    | .key :: _ => do
      let (key, r) ← readNodeUnless shorthands fuel [.key, .value, .blockEnd] true true r.skip
      let (value, r) ← readValue shorthands fuel [.key, .value, .blockEnd] true r
      let (pairs, r) ← readBlockPairs shorthands fuel r
      return ((key, value) :: pairs, r)
    | .blockEnd :: _ => some ([], r.skip)
    | _ => none

/-- The items of a sequence between brackets; `first` says that none has been read. -/
def readFlowItems (shorthands : Shorthands) :
    (fuel : Nat) → (first : Bool) → Reading → Option (List Node × Reading)
  | 0, _, _ => none
  | fuel + 1, first, r => do
    if r.next [.flowSequenceEnd] then return ([], r.skip)
    else if !first && !r.next [.flowEntry] then none
    else
      let r := if first then r else r.skip
      if r.next [.flowSequenceEnd] then return ([], r.skip)
      else
        let (x, r) ←
          if r.next [.key] then readSinglePair shorthands fuel r.skip
          else readNode shorthands fuel false false r
        let (xs, r) ← readFlowItems shorthands fuel false r
        return (x :: xs, r)

/-- A pair that is an item of a sequence between brackets, as a mapping.  A token that shows that the
key was left out is taken for a part of it. -/
def readSinglePair (shorthands : Shorthands) : (fuel : Nat) → Reading → NodeRead
  | 0, _ => none
  | fuel + 1, r => do
    let (key, r) ←
      if r.next [.value, .flowEntry, .flowSequenceEnd] then some (.missing, r.skip)
      else readNode shorthands fuel false false r
    let (value, r) ← readValue shorthands fuel [.flowEntry, .flowSequenceEnd] false r
    return (.mapping none [(key, value)], r)

/-- The pairs of a mapping between braces; `first` says that none has been read. -/
def readFlowPairs (shorthands : Shorthands) :
    (fuel : Nat) → (first : Bool) → Reading → Option (List (Node × Node) × Reading)
  | 0, _, _ => none
  | fuel + 1, first, r => do
    if r.next [.flowMappingEnd] then return ([], r.skip)
    else if !first && !r.next [.flowEntry] then none
    else
      let r := if first then r else r.skip
      if r.next [.flowMappingEnd] then return ([], r.skip)
      else if r.next [.key] then
        let (key, r) ←
          readNodeUnless shorthands fuel [.value, .flowEntry, .flowMappingEnd] false false r.skip
        let (value, r) ← readValue shorthands fuel [.flowEntry, .flowMappingEnd] false r
        let (pairs, r) ← readFlowPairs shorthands fuel false r
        return ((key, value) :: pairs, r)
      else
        let (key, r) ← readNode shorthands fuel false false r
        let (pairs, r) ← readFlowPairs shorthands fuel false r
        return ((key, .missing) :: pairs, r)

end

/-! ## Documents -/

/-- Whether a token shows that the content of a document was left out. -/
def endsDocument : Token → Bool
  | .version .. | .shorthand .. | .documentStart | .documentEnd => true
  | _ => false

/-- Enough fuel for a list of tokens. -/
def fuelFor (tokens : List Token) : Nat := 4 * tokens.length + 4

/-- The content of a document behind its beginning. -/
def readRoot (shorthands : Shorthands) (tokens : List Token) : Option (Node × List Token) :=
  (readNode shorthands (fuelFor tokens) true false { tokens := tokens }).map fun (node, r) =>
    (node, r.tokens)

/-- The content of a document with a mark for its beginning, before which directives may stand. -/
def readMarkedDocument (tokens : List Token) : Option (Node × List Token) := do
  let (d, tokens) ← readDirectives {} tokens
  match tokens with
  | .documentStart :: rest =>
    if rest.head?.all endsDocument then return (.missing, rest) else readRoot d.shorthands rest
  | _ => none

/-- The content of the document at the front. -/
def readDocument (tokens : List Token) : Option (Node × List Token) :=
  match tokens with
  | [] => some (.missing, [])
  | .version .. :: _ | .shorthand .. :: _ | .documentStart :: _ => readMarkedDocument tokens
  | _ => readRoot [] tokens

/-- The only document of a list of tokens; without tokens it is a missing node. -/
def Node.ofTokens? (tokens : List Token) : Option Node := do
  let (node, rest) ← readDocument tokens
  if rest.all (· == .documentEnd) then return node else none

end SchemaCompiler.Yaml

import SchemaCompiler.Json.Basic
import SchemaCompiler.Yaml.Node

/-!
# The values of nodes

What a plain scalar stands for is decided by its text; quoted scalars and blocks are strings, and a tag
can say what a scalar is meant to be.  A reference stands for a copy of the node that it refers to,
within bounds: a document cannot be nested without end, and it cannot grow too much by its references.

* `plainValue` — the value of a plain scalar.
* `scalarValue` — the value of a scalar with its tag.
* `Node.value` — the value of a node.
* `Yaml.parse` — the value of a text.
-/

namespace SchemaCompiler.Yaml

/-! ## Integers -/

/-- The number that a run of digits of a base stands for; the run is not empty. -/
def digitsIn (base : Nat) (cs : List Char) : Option Nat :=
  if cs.isEmpty then none
  else
    cs.foldlM (fun n c => (Text.hexValue c).bind fun d => if d < base then some (n * base + d) else none)
      0

/-- Whether a text is a number with a zero too many in front, which makes it a string. -/
def isPadded (cs : List Char) : Bool :=
  let digits := match cs with
    | '-' :: rest | '+' :: rest => rest
    | _ => cs
  digits.length > 1 && digits.head? == some '0' && digits.all Char.isDigit

/-- The size of an integer without its sign, in base ten or with the mark of another base. -/
def magnitude : List Char → Option Nat
  | '0' :: 'x' :: rest => digitsIn 16 rest
  | '0' :: 'o' :: rest => digitsIn 8 rest
  | '0' :: 'b' :: rest => digitsIn 2 rest
  | cs => if isPadded cs then none else digitsIn 10 cs

/-- The integer that a text stands for. -/
def integer? : List Char → Option Int
  | '-' :: rest => (magnitude rest).map fun n => -(n : Int)
  | '+' :: rest => (magnitude rest).map fun n => (n : Int)
  | cs => (magnitude cs).map fun n => (n : Int)

/-- What becomes of an integer. -/
inductive IntegerUse where
  /-- It is kept. -/
  | kept (n : Int)
  /-- It fits into 128 bits but not into 64, and is refused. -/
  | refused
  /-- It is no integer at all. -/
  | other

/-- What becomes of a text that may be an integer. -/
def integerUse (cs : List Char) : IntegerUse :=
  match integer? cs with
  | none => .other
  | some n =>
    if Json.leastInt ≤ n && n ≤ Json.largestInt then .kept n
    else if -(twoTo 127 : Int) ≤ n && n < twoTo 128 then .refused
    else .other

/-! ## Doubles -/

/-- The digits before and behind a point, of which there is one at least, and the rest. -/
def splitDecimal (cs : List Char) : Option (List Char × List Char × List Char) :=
  let whole := cs.takeWhile Char.isDigit
  let (fraction, rest) := match cs.dropWhile Char.isDigit with
    | '.' :: rest => (rest.takeWhile Char.isDigit, rest.dropWhile Char.isDigit)
    | rest => ([], rest)
  if whole.isEmpty && fraction.isEmpty then none else some (whole, fraction, rest)

/-- The exponent that a whole text stands for; the empty text stands for none. -/
def exponent? : List Char → Option Int
  | [] => some 0
  | c :: rest =>
    if c = 'e' || c = 'E' then
      match rest with
      | '-' :: digits => (digitsIn 10 digits).map fun n => -(n : Int)
      | '+' :: digits => (digitsIn 10 digits).map fun n => (n : Int)
      | digits => (digitsIn 10 digits).map fun n => (n : Int)
    else none

/-- The finite double that a text without its sign stands for. -/
def unsignedDouble? (negative : Bool) (cs : List Char) : Option Binary64 := do
  let (whole, fraction, rest) ← splitDecimal cs
  let exponent ← exponent? rest
  Binary64.ofDecimal negative (Text.digitsValue (whole ++ fraction)) (exponent - fraction.length)

/-- The texts of the doubles that are not finite. -/
def specialDoubles : List String :=
  [".inf", ".Inf", ".INF", "+.inf", "+.Inf", "+.INF", "-.inf", "-.Inf", "-.INF", ".nan", ".NaN",
    ".NAN"]

/-- The value of a text that stands for a double; those that are not finite are null. -/
def double? (text : String) : Option Json :=
  if specialDoubles.contains text then some .null
  else
    match text.toList with
    | '-' :: rest => (unsignedDouble? true rest).map .float
    | '+' :: rest => (unsignedDouble? false rest).map .float
    | cs => (unsignedDouble? false cs).map .float

/-! ## Scalars -/

/-- The words for null. -/
def nullWords : List String := ["null", "Null", "NULL", "~"]

/-- The truth value that a word stands for. -/
def flag? (text : String) : Option Bool :=
  if ["true", "True", "TRUE"].contains text then some true
  else if ["false", "False", "FALSE"].contains text then some false
  else none

/-- The value of a plain scalar, unless it is an integer that is refused. -/
def plainValue (text : String) : Option Json :=
  if text.isEmpty || nullWords.contains text then some .null
  else
    match flag? text with
    | some b => some (.bool b)
    | none =>
      match integerUse text.toList with
      | .kept n => some (.int n)
      | .refused => none
      | .other =>
        if isPadded text.toList then some (.string text)
        else some ((double? text).getD (.string text))

/-- The value of a scalar of a kind that its tag names. -/
def taggedValue (kind text : String) : Option Json :=
  match kind with
  | "bool" => (flag? text).map .bool
  | "int" =>
    match integerUse text.toList with
    | .kept n => some (.int n)
    | .refused | .other => none
  | "float" => double? text
  | "null" => if nullWords.contains text then some .null else none
  | _ => some (.string text)

/-- Whether a tag has a meaning of the document's own; such a node has no value. -/
def isLocal (tag : Option String) : Bool := tag.any fun t => t.toList.head? == some '!'

/-- The kind that a tag of YAML itself names. -/
def kindOf (tag : String) : String :=
  let front := "tag:yaml.org,2002:".toList
  if front.isPrefixOf tag.toList then String.ofList (tag.toList.drop front.length) else ""

/-- The value of a scalar. -/
def scalarValue (tag : Option String) (plain : Bool) (text : String) : Option Json :=
  match tag with
  | none => if plain then plainValue text else some (.string text)
  | some t => if isLocal tag then none else taggedValue (kindOf t) text

/-! ## Nodes -/

/-- A computation that may follow so many references. -/
abbrev Following := StateT Nat Option

/-- The node that a node stands for: a reference stands for the last node with its mark. -/
def follow (marks : List (Nat × Node)) : Node → Following Node
  | .marked _ node => pure node
  | .reference mark => do
    let left ← get
    if left = 0 then failure
    else
      set (left - 1)
      match marks.reverse.lookup mark with
      | some node => pure node
      | none => failure
  | node => pure node

/-- The text of a node as a key. -/
def keyText (marks : List (Nat × Node)) (node : Node) : Following String := do
  match ← follow marks node with
  | .scalar _ _ text => pure text
  | _ => failure

/-- The value of a node whose collections are nested at most so deep. -/
def nodeValue (marks : List (Nat × Node)) : (depth : Nat) → Node → Following Json
  | depth, node => do
    match ← follow marks node, depth with
    | .scalar tag plain text, _ => StateT.lift (scalarValue tag plain text)
    | .sequence tag items, depth + 1 =>
      if isLocal tag then failure
      else return .array (← items.mapM (nodeValue marks depth))
    | .mapping tag pairs, depth + 1 =>
      if isLocal tag then failure
      else
        return Json.ofFields (← pairs.mapM fun (key, value) => do
          let key ← keyText marks key
          return (key, ← nodeValue marks depth value))
    | _, _ => failure

/-- The deepest nesting of collections. -/
def deepest : Nat := 128

/-- How many references may be followed for each unit of a document's size. -/
def referencesPerUnit : Nat := 100

/-- The value of a document. -/
def Node.value (node : Node) : Option Json :=
  (nodeValue node.marks deepest node).run' (referencesPerUnit * node.size)

/-- The value that a whole text stands for. -/
def parse (text : String) : Option Json := do (← Node.ofTokens? (← tokens text.toList)).value

end SchemaCompiler.Yaml

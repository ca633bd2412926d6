import SchemaCompiler.Toml.Number
import SchemaCompiler.Toml.Tree

/-!
# Reading TOML

A document is a list of lines, each of which is empty, names a table, or gives a key a value.

* `readValue` — a value of any kind.
* `readStatements` — the statements of a document.
* `Toml.parse` — the table that a document describes.
-/

namespace SchemaCompiler.Toml

/-! ## Values -/

/-- The text behind a word, with the value that the word stands for. -/
def readWord (word : String) (value : Toml) (cs : List Char) : Option (Toml × List Char) :=
  if word.toList.isPrefixOf cs then some (value, cs.drop word.toList.length) else none

mutual

/-- A value; `depth` is the number of brackets that may still be opened. -/
def readValue : (fuel : Nat) → (depth : Nat) → List Char → Option (Toml × List Char)
  | 0, _, _ => none
  | fuel + 1, depth, cs =>
    match cs, depth with
    | [], _ => none
    | '[' :: rest, depth + 1 => (readItems fuel depth rest).map fun (xs, left) => (.array xs, left)
    | '\x7b' :: rest, depth + 1 =>
      match skipBlank rest with
      | '\x7d' :: rest => some (.inline [], rest)
      | rest => do
        let (pairs, left) ← readPairs fuel depth rest
        return (.inline (← pairs.foldlM assign []), left)
    | '"' :: _, _ | '\'' :: _, _ => (readString cs).map fun (s, left) => (.string s, left)
    | 't' :: _, _ => readWord "true" (.bool true) cs
    | 'f' :: _, _ => readWord "false" (.bool false) cs
    | c :: _, _ =>
      if c.isDigit || ['+', '-', 'i', 'n'].contains c then readNumeric cs else none

/-- The items of an array behind its opening bracket or behind a comma. -/
def readItems : (fuel : Nat) → (depth : Nat) → List Char → Option (List Toml × List Char)
  | 0, _, _ => none
  | fuel + 1, depth, cs =>
    match skipLayout false cs with
    | some (']' :: rest) => some ([], rest)
    | some cs =>
      match readValue fuel depth cs with
      | none => none
      | some (x, rest) =>
        match skipLayout false rest with
        | some (',' :: rest) => (readItems fuel depth rest).map fun (xs, left) => (x :: xs, left)
        | some (']' :: rest) => some ([x], rest)
        | _ => none
    | none => none

/-- The pairs of a table between braces, at least one. -/
def readPairs : (fuel : Nat) → (depth : Nat) → List Char → Option (List (Key × Toml) × List Char)
  | 0, _, _ => none
  | fuel + 1, depth, cs =>
    match readKey cs with
    | some (key, '=' :: rest) =>
      match readValue fuel depth (skipBlank rest) with
      | none => none
      | some (value, rest) =>
        match skipBlank rest with
        | ',' :: rest =>
          (readPairs fuel depth rest).map fun (pairs, left) => ((key, value) :: pairs, left)
        | '\x7d' :: rest => some ([(key, value)], rest)
        | _ => none
    | _ => none

end

/-! ## Statements -/

/-- A header behind its opening bracket, up to the rest of its line. -/
def readHeader : List Char → Option (Statement × List Char)
  | '[' :: rest => do
    let (key, rest) ← readKey rest
    return (.element key, ← behind? ']' (← behind? ']' rest))
  | rest => do
    let (key, rest) ← readKey rest
    return (.header key, ← behind? ']' rest)

/-- A key with its value, up to the rest of its line. -/
def readPair (cs : List Char) : Option (Statement × List Char) := do
  let (key, rest) ← readKey cs
  let rest := skipBlank (← behind? '=' rest)
  let (value, rest) ← readValue (2 * rest.length + 2) deepest rest
  return (.pair key value, rest)

/-- The statement at the front of a line without the blanks before it; an empty line has none. -/
def readStatement (cs : List Char) : Option (Option Statement × List Char) :=
  match cs with
  | [] | '#' :: _ | '\n' :: _ | '\r' :: _ => some (none, cs)
  | '[' :: rest => (readHeader rest).map fun (s, left) => (some s, left)
  | _ => (readPair cs).map fun (s, left) => (some s, left)

/-- The statements of a document.  Every line takes a character at least, so the number of characters
is enough fuel. -/
def readStatements : (fuel : Nat) → List Char → Option (List Statement)
  | _, [] => some []
  | 0, _ => none
  | fuel + 1, cs => do
    let (statement, rest) ← readStatement (skipBlank cs)
    let statements ← readStatements fuel (← endLine rest)
    return statement.toList ++ statements

/-- A text without the mark of the byte order. -/
def skipByteOrderMark : List Char → List Char
  | '\ufeff' :: rest => rest
  | cs => cs

/-- The table that a whole text describes. -/
def parse (text : String) : Option Toml := do
  let cs := skipByteOrderMark text.toList
  return ofFields (← build (← readStatements cs.length cs))

end SchemaCompiler.Toml

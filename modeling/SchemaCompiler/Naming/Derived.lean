import SchemaCompiler.Digest.Md5
import SchemaCompiler.Text.Blank
import SchemaCompiler.Text.Singular
import SchemaCompiler.Text.WordCase

/-!
# Derived names

Index names, record types, accessor names and file names are all functions of the names in the
schema, so that two runs on one schema agree.

* `formatName` — a pattern with placeholders in braces.
* `indexName` — the name of an index left nameless in a schema.
* `recordName` — the type of a table's rows.
* `sanitized` — a name made of letters, digits and underscores.
* `conflicts` — pairs of names that fall together.
* `truncated` — a name cut to a number of bytes, told apart from others by a digest.
* `slug` — a file name's readable part.
-/

namespace SchemaCompiler.Naming

open Text

/-! ## Patterns -/

/-- A placeholder as it stands in a pattern. -/
def placeholder (name : String) : String := String.ofList ('\x7b' :: name.toList ++ ['\x7d'])

/-- Replaces the placeholders one after the other, so a value may itself hold a later placeholder. -/
def formatName (pattern : String) (values : List (String × String)) : String :=
  values.foldl (fun text (name, value) => replace text (placeholder name) value) pattern

/-! ## Identifiers -/

/-- A name in which everything but letters, digits and underscores has become an underscore, with one
more underscore in front of a digit. -/
def sanitized (name : String) : String :=
  let clean := name.toList.map fun c => if isAlphanumeric c || c == '_' then c else '_'
  match clean with
  | c :: _ => if isNumeric c then String.ofList ('_' :: clean) else String.ofList clean
  | [] => ""

/-- The name of an index from a pattern that may mention its table and its columns. -/
def indexName (pattern table : String) (columns : List String) : String :=
  formatName pattern
    [("table", table), ("columns", "_".intercalate (columns.map sanitized))]

/-- The type of a table's rows: the singular of the table's name, words set off by capitals. -/
def recordName (table : String) : String := pascalCase (singularName (snakeCase table))

/-! ## Conflicts -/

/-- Pairs of an earlier name and a later one with the same key, given the keys met so far with the
name that brought each. -/
def conflictsAfter (key : String → String) (seen : List (String × String)) :
    List String → List (String × String)
  | [] => []
  | name :: rest =>
    match seen.lookup (key name) with
    | some first => (first, name) :: conflictsAfter key seen rest
    | none => conflictsAfter key ((key name, name) :: seen) rest

/-- Every name that repeats an earlier one, paired with the first of its kind. -/
def conflicts (names : List String) (ignoreCase : Bool) : List (String × String) :=
  conflictsAfter (if ignoreCase then toLowercase else id) [] names

/-- The first name that repeats an earlier one. -/
def firstConflict (names : List String) (ignoreCase : Bool) : Option String :=
  (conflicts names ignoreCase).head?.map (·.2)

/-! ## Length limits -/

/-- The longest beginning of a text that fits into a number of bytes. -/
def takeBytes : Nat → List Char → List Char
  | _, [] => []
  | n, c :: rest => if c.utf8Size ≤ n then c :: takeBytes (n - c.utf8Size) rest else []

/-- A name of at most `limit` bytes.  A longer name keeps its beginning and ends in an underscore and
eight digits of its digest; a limit that leaves no room for these nine characters is no limit. -/
def truncated (name : String) (limit : Nat) : String :=
  if name.utf8ByteSize ≤ limit || limit ≤ 9 then name
  else
    String.ofList (takeBytes (limit - 9) name.toList ++
      '_' :: (Digest.Md5.hexDigest name).toList.take 8)

/-! ## File names -/

/-- The words of a file name: each run of other characters becomes one underscore; `last` is the
latest character written. -/
def slugFrom (last : Option Char) : List Char → List Char
  | [] => []
  | c :: rest =>
    if c.isAlphanum then c.toLower :: slugFrom (some c.toLower) rest
    else if last = some '_' then slugFrom last rest
    else '_' :: slugFrom (some '_') rest

/-- The readable part of a file name: ASCII letters in small form and digits, joined by single
underscores. -/
def slug (name : String) : String :=
  match trimBoth (· == '_') (slugFrom none (trim name).toList) with
  | [] => "migration"
  | cs => String.ofList cs

end SchemaCompiler.Naming

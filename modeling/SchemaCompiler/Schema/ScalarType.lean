import SchemaCompiler.Error.Generation
import SchemaCompiler.Text.Blank
import SchemaCompiler.Text.LetterCase

/-!
# Scalar types

A column stores one of SQLite's storage classes, or a number whose form is left open.  A declared type
may be any name that SQLite's affinity rules know: what counts is the part before a parenthesis, in
capitals and without blanks around it.

* `ScalarType`, `ScalarType.sqlName` — the types and their names in DDL.
* `ScalarType.ofDeclared` — the type that a declared name stands for.
* `TargetLanguage`, `ScalarType.typeIn` — the type of such a value in generated code.
-/

namespace SchemaCompiler

/-- What a column stores. -/
inductive ScalarType where
  | integer
  | real
  | text
  | blob
  | null
  | numeric
  deriving DecidableEq, Repr

/-- The name of the type in DDL. -/
def ScalarType.sqlName : ScalarType → String
  | .integer => "INTEGER"
  | .real => "REAL"
  | .text => "TEXT"
  | .blob => "BLOB"
  | .null => "NULL"
  | .numeric => "NUMERIC"

/-! ## Declared names -/

/-- Whether one of the texts occurs in a name. -/
def holdsAny (name : String) (parts : List String) : Bool := parts.any (Text.contains name)

/-- The part of a declared name that decides: before a parenthesis, in capitals, without blanks
around it. -/
def ScalarType.baseName (declared : String) : String :=
  Text.trim (Text.upTo '(' (Text.toUppercase (Text.trim declared)))

/-- The type that a base name stands for.  The tests are made in this order, so `CHARINT` is an
integer. -/
def ScalarType.ofBaseName (base : String) : Option ScalarType :=
  if base = "NULL" then some .null
  else if base = "" then none
  else if Text.contains base "INT" then some .integer
  else if holdsAny base ["CHAR", "CLOB", "TEXT"] then some .text
  else if base = "BLOB" then some .blob
  else if holdsAny base ["REAL", "FLOA", "DOUB"] then some .real
  else if ["NUMERIC", "DECIMAL", "BOOLEAN", "BOOL", "DATE", "DATETIME", "TIMESTAMP"].contains base
  then some .numeric
  else none

/-- The type that a declared name stands for. -/
def ScalarType.ofDeclared (declared : String) : Except GenerationError ScalarType :=
  match ofBaseName (baseName declared) with
  | some t => .ok t
  | none => .error (.unmappedScalarType declared)

/-! ## Target languages -/

/-- The languages in which access code is generated. -/
inductive TargetLanguage where
  | typeScript
  | rust
  deriving DecidableEq, Repr

/-- The name of a language in settings. -/
def TargetLanguage.name : TargetLanguage → String
  | .typeScript => "typescript"
  | .rust => "rust"

/-- The type of a stored value in generated code, absent values aside. -/
def ScalarType.typeIn : ScalarType → TargetLanguage → String
  | .integer, .typeScript | .real, .typeScript | .numeric, .typeScript => "number"
  | .text, .typeScript => "string"
  | .blob, .typeScript => "Uint8Array"
  | .null, .typeScript => "null"
  | .integer, .rust => "i64"
  | .real, .rust | .numeric, .rust => "f64"
  | .text, .rust => "String"
  | .blob, .rust => "Vec<u8>"
  | .null, .rust => "()"

end SchemaCompiler

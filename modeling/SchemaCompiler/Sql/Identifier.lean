import SchemaCompiler.Error.Generation
import SchemaCompiler.Naming.Keywords
import SchemaCompiler.Text.Basic

/-!
# Identifiers in SQL

A name is written bare where SQLite reads it back as that name, and between double quotes otherwise;
inside the quotes a double quote is written twice.  Two texts have no written form: the empty one,
and one that holds a NUL, at which SQLite would stop reading.

* `isPlain` — names that may be written bare.
* `quote` — the written form.
* `quoteList` — several names, separated by commas.
-/

namespace SchemaCompiler.Sql

/-- The characters that may begin a bare name. -/
def isNameStart (c : Char) : Bool := c.isAlpha || c == '_'

/-- The characters that may continue a bare name. -/
def isNameChar (c : Char) : Bool := c.isAlphanum || c == '_'

/-- Letters, digits and underscores of ASCII, not beginning with a digit. -/
def isBareWord : List Char → Bool
  | [] => false
  | c :: rest => isNameStart c && rest.all isNameChar

/-- Whether a name may be written bare: a bare word that is not reserved. -/
def isPlain (name : String) : Bool := isBareWord name.toList && !Naming.isSqlKeyword name

/-- The inside of a quoted name: every double quote is written twice. -/
def doubleQuotes : List Char → List Char
  | [] => []
  | c :: rest => if c = '"' then '"' :: '"' :: doubleQuotes rest else c :: doubleQuotes rest

/-- What keeps a text from being an identifier, if anything does. -/
def identifierFault (name : String) : Option IdentifierFault :=
  if name.isEmpty then some .empty
  else if name.toList.contains '\x00' then some .holdsNul
  else none

/-- The written form of a name. -/
def quote (name : String) : Except GenerationError String :=
  match identifierFault name with
  | some fault => .error (.invalidIdentifier name fault)
  | none =>
    if isPlain name then .ok name
    else .ok (String.ofList ('"' :: doubleQuotes name.toList ++ ['"']))

/-- Several names, separated by commas. -/
def quoteList (names : List String) : Except GenerationError String :=
  return ", ".intercalate (← names.mapM quote)

end SchemaCompiler.Sql

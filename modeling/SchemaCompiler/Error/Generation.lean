import SchemaCompiler.Text.Quoted

/-!
# What can go wrong when text is derived

Three causes stop the derivation of SQL or access code from a schema that is otherwise well formed:
a type name that is not known, a name that cannot be written as an identifier, and a table whose rows
cannot be told apart.
-/

namespace SchemaCompiler

/-- Why a text cannot be an identifier. -/
inductive IdentifierFault where
  | empty
  | holdsNul
  deriving DecidableEq, Repr

/-- The fault in words. -/
def IdentifierFault.message : IdentifierFault → String
  | .empty => "identifier is empty"
  | .holdsNul => "identifier contains a NUL character"

/-- Failures while deriving SQL text or access code. -/
inductive GenerationError where
  | unmappedScalarType (name : String)
  | invalidIdentifier (identifier : String) (fault : IdentifierFault)
  | missingPrimaryKey (table : String)
  deriving DecidableEq, Repr

/-- The error in words. -/
def GenerationError.message : GenerationError → String
  | .unmappedScalarType name => "No scalar type matches '" ++ name ++ "'"
  | .invalidIdentifier identifier fault =>
    "Identifier " ++ Text.quoted identifier ++ " cannot be escaped: " ++ fault.message
  | .missingPrimaryKey table =>
    "Table '" ++ table ++ "' has no primary key to derive accessors from"

end SchemaCompiler

import SchemaCompiler.Access.Plan
import SchemaCompiler.Json.Printer

/-!
# Access code in TypeScript

The record types of all tables stand in one file; each table has a file with a class whose methods run
the operations on a `D1Database`.

* `typeSource` — a record type.
* `typesSource` — the file of all record types.
* `repositorySource` — the file of a table's repository.
-/

namespace SchemaCompiler.Access

/-- The first line of every generated file. -/
def generatedHeader : String := "// Generated by schema_architect. Do not edit by hand.\n"

/-- What stands above the creation of rows whose key is not made up. -/
def ungeneratedKeyNote : String :=
  "Key columns are not generated and not accepted here; insert rows of this table with direct SQL."

/-- The record types of a plan, each written out. -/
def typeBlocks (render : Declaration → String) (p : Plan) : List String :=
  [render p.record, render p.createInput] ++ (p.updateInput.map render).toList

namespace TypeScript

open Naming Text

/-! ## Types -/

/-- Whether a name can be written as a property without quotes. -/
def isBareProperty (name : String) : Bool := sanitized name == name

/-- A name as a property in a type. -/
def propertyName (name : String) : String :=
  if isBareProperty name then name else Json.stringLiteral name

/-- The value of a property of an object. -/
def propertyAccess (object name : String) : String :=
  if isBareProperty name then object ++ "." ++ name
  else object ++ "[" ++ Json.stringLiteral name ++ "]"

/-- A documentation comment on one line; the mark that would end it early is taken apart. -/
def docComment (doc indent : String) : String :=
  indent ++ "/** " ++ trim (replace doc "*/" "* /") ++ " */\n"

/-- A type, with null if the value may be absent. -/
def fieldType (type : String) (optional : Bool) : String :=
  if optional && type != "null" then type ++ " | null" else type

/-- A field of a record type; only stored rows carry the comments of their columns. -/
def fieldSource (role : Role) (f : Field) : String :=
  (match f.doc, role with
    | some doc, .row => docComment doc "  "
    | _, _ => "")
  ++ "  " ++ propertyName f.name ++ ": " ++ fieldType f.type f.optional ++ ";\n"

/-- A record type. -/
def typeSource (d : Declaration) : String :=
  (match d.doc with
    | some doc => docComment doc ""
    | none => "")
  ++ "export interface " ++ d.name ++ " \x7b\n" ++ String.join (d.fields.map (fieldSource d.role))
  ++ "\x7d\n"

/-- The file of all record types. -/
def typesSource (plans : List Plan) : String :=
  generatedHeader ++ "\n" ++ "\n".intercalate (plans.flatMap (typeBlocks typeSource))

/-! ## Methods -/

/-- The parameters that an operation has besides its keys. -/
def extraParameters (p : Plan) (pageSize : Nat) : OperationKind → List String
  | .findAll => ["limit = " ++ decimal pageSize, "offset = 0"]
  | .create => ["input: " ++ p.createInput.name]
  | .update => (p.updateInput.map fun d => "input: " ++ d.name).toList
  | .findById | .findByUnique | .delete => []

/-- The values that an operation binds, in order. -/
def boundValues (o : Operation) : List String :=
  o.inputs.map (fun i => propertyAccess "input" i.name) ++ o.keys.map (·.name)
    ++ (if o.isPaginated then ["limit", "offset"] else [])

/-- The prepared statement with its values. -/
def boundStatement (o : Operation) : String :=
  "this.db\n      .prepare(" ++ Json.stringLiteral o.sql ++ ")\n      .bind("
    ++ ", ".intercalate (boundValues o) ++ ")"

/-- The type that an operation returns. -/
def returnType (record : String) : OperationKind → String
  | .findById | .findByUnique | .update => record ++ " | null"
  | .findAll => record ++ "[]"
  | .create => record
  | .delete => "boolean"

/-- The body of a method. -/
def bodySource (p : Plan) (o : Operation) : String :=
  let record := p.record.name
  match o.kind with
  | .findById | .findByUnique | .update =>
    "    return " ++ boundStatement o ++ "\n      .first<" ++ record ++ ">();\n"
  | .findAll =>
    "    const \x7b results \x7d = await " ++ boundStatement o ++ "\n      .all<" ++ record
      ++ ">();\n    return results;\n"
  | .create =>
    "    const row = await " ++ boundStatement o ++ "\n      .first<" ++ record
      ++ ">();\n    if (row === null) \x7b\n      throw new Error("
      ++ Json.stringLiteral ("insert into " ++ p.table ++ " returned no row")
      ++ ");\n    \x7d\n    return row;\n"
  | .delete =>
    "    const result = await " ++ boundStatement o
      ++ "\n      .run();\n    return result.meta.changes > 0;\n"

/-- The method of an operation. -/
def methodSource (p : Plan) (pageSize : Nat) (o : Operation) : String :=
  let parameters :=
    o.keys.map (fun k => k.name ++ ": " ++ k.type) ++ extraParameters p pageSize o.kind
  (if o.kind = .create && !p.generatedKey then "  // " ++ ungeneratedKeyNote ++ "\n" else "")
    ++ "  async " ++ o.name ++ "(" ++ ", ".intercalate parameters ++ "): Promise<"
    ++ returnType p.record.name o.kind ++ "> \x7b\n" ++ bodySource p o ++ "  \x7d\n"

/-- The file of a table's repository. -/
def repositorySource (p : Plan) (pageSize : Nat) : String :=
  generatedHeader ++ "\nimport type \x7b " ++ ", ".intercalate p.typeNames
    ++ " \x7d from \"../types\";\n\nexport class " ++ p.record.name
    ++ "Repository \x7b\n  constructor(private readonly db: D1Database) \x7b\x7d\n\n"
    ++ "\n".intercalate (p.operations.map (methodSource p pageSize)) ++ "\x7d\n"

/-- The name of the file of all record types. -/
def typesFile : String := "types.ts"

/-- The name of the file of a table's repository. -/
def repositoryFile (p : Plan) : String := "repositories/" ++ p.fileStem ++ ".ts"

end TypeScript

end SchemaCompiler.Access

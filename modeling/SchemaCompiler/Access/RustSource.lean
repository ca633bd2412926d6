import SchemaCompiler.Access.TypeScriptSource

/-!
# Access code in Rust

The record types of all tables stand in one file; each table has a module of functions that run the
operations on a connection pool, and an index file declares the modules.

* `typeSource` — a record type.
* `modelsSource` — the file of all record types.
* `indexSource` — the file that declares the modules.
* `repositorySource` — the module of a table's repository.
-/

namespace SchemaCompiler.Access.Rust

open Naming Text

/-! ## Types -/

/-- Every line of a text behind the mark of a documentation comment; nothing follows the mark on an
empty line. -/
def docLines (doc indent : String) : String :=
  String.join ((lines doc).map fun line => replace (indent ++ "/// " ++ line ++ "\n") "/// \n" "///\n")

/-- A type, optional if the value may be absent. -/
def fieldType (type : String) (optional : Bool) : String :=
  if optional then "Option<" ++ type ++ ">" else type

/-- The type of an argument, which is borrowed where that is possible. -/
def argumentType (type : String) : String :=
  if type = "String" then "&str" else if type = "Vec<u8>" then "&[u8]" else type

/-- An identifier without the mark of a raw one. -/
def bareIdentifier (name : String) : String :=
  match name.toList with
  | 'r' :: '#' :: rest => String.ofList rest
  | _ => name

/-- The comment of a field. -/
def commentSource (indent : String) : Option String → String
  | some doc => docLines doc indent
  | none => ""

/-- The attribute that ties a field to its column, where a stored row's field is named otherwise. -/
def renameAttribute (role : Role) (f : Field) : String :=
  if role = .row && bareIdentifier f.name != f.column then
    "    #[sqlx(rename = " ++ quoted f.column ++ ")]\n"
  else ""

/-- A field of a record type. -/
def fieldSource (role : Role) (f : Field) : String :=
  commentSource "    " f.doc ++ renameAttribute role f ++ "    pub " ++ f.name ++ ": "
    ++ fieldType f.type f.optional ++ ",\n"

/-- The attribute of a record type. -/
def deriveAttribute : Role → String
  | .row => "#[derive(Debug, Clone, PartialEq, sqlx::FromRow)]\n"
  | .input => "#[derive(Debug, Clone, PartialEq)]\n"

/-- A record type. -/
def typeSource (d : Declaration) : String :=
  commentSource "" d.doc ++ deriveAttribute d.role ++ "pub struct " ++ d.name ++ " \x7b\n"
    ++ String.join (d.fields.map (fieldSource d.role)) ++ "\x7d\n"

/-- The file of all record types. -/
def modelsSource (plans : List Plan) : String :=
  generatedHeader ++ "\n" ++ "\n".intercalate (plans.flatMap (typeBlocks typeSource))

/-! ## Functions -/

/-- The parameters that an operation has besides the pool and its keys. -/
def extraParameters (p : Plan) : OperationKind → List String
  | .findAll => ["limit: i64", "offset: i64"]
  | .create => ["input: &" ++ p.createInput.name]
  | .update => (p.updateInput.map fun d => "input: &" ++ d.name).toList
  | .findById | .findByUnique | .delete => []

/-- The values that an operation binds, in order. -/
def boundValues (o : Operation) : List String :=
  o.inputs.map (fun i => "&input." ++ i.name) ++ o.keys.map (·.name)
    ++ (if o.isPaginated then ["limit", "offset"] else [])

/-- The lines that bind the values. -/
def bindLines (o : Operation) : String :=
  String.join ((boundValues o).map fun value => "        .bind(" ++ value ++ ")\n")

/-- A query for rows. -/
def querySource (p : Plan) (o : Operation) (fetch : String) : String :=
  "    sqlx::query_as::<_, " ++ p.record.name ++ ">(" ++ quoted o.sql ++ ")\n" ++ bindLines o
    ++ "        ." ++ fetch ++ "(pool)\n        .await\n"

/-- The type that an operation returns. -/
def returnType (record : String) : OperationKind → String
  | .findById | .findByUnique | .update => "Option<" ++ record ++ ">"
  | .findAll => "Vec<" ++ record ++ ">"
  | .create => record
  | .delete => "bool"

/-- The body of a function. -/
def bodySource (p : Plan) (o : Operation) : String :=
  match o.kind with
  | .findById | .findByUnique | .update => querySource p o "fetch_optional"
  | .findAll => querySource p o "fetch_all"
  | .create => querySource p o "fetch_one"
  | .delete =>
    "    let result = sqlx::query(" ++ quoted o.sql ++ ")\n" ++ bindLines o
      ++ "        .execute(pool)\n        .await?;\n    Ok(result.rows_affected() > 0)\n"

/-- The function of an operation. -/
def functionSource (p : Plan) (o : Operation) : String :=
  let parameters := "pool: &SqlitePool" :: o.keys.map (fun k => k.name ++ ": " ++ argumentType k.type)
    ++ extraParameters p o.kind
  (if o.kind = .create && !p.generatedKey then "// " ++ ungeneratedKeyNote ++ "\n" else "")
    ++ "pub async fn " ++ o.name ++ "(" ++ ", ".intercalate parameters ++ ") -> sqlx::Result<"
    ++ returnType p.record.name o.kind ++ "> \x7b\n" ++ bodySource p o ++ "\x7d\n"

/-- The module of a table's repository. -/
def repositorySource (p : Plan) (pageSize : Nat) : String :=
  generatedHeader ++ "\nuse sqlx::SqlitePool;\n\nuse crate::models::\x7b"
    ++ ", ".intercalate p.typeNames
    ++ "\x7d;\n\n/// Page size callers pass to \x60find_all\x60 when they have no preference\n"
    ++ "pub const DEFAULT_PAGE_SIZE: i64 = " ++ decimal pageSize ++ ";\n\n"
    ++ "\n".intercalate (p.operations.map (functionSource p))

/-- The file that declares the modules. -/
def indexSource (plans : List Plan) : String :=
  generatedHeader ++ "\n"
    ++ String.join (plans.map fun p => "pub mod " ++ rawIdentifier p.fileStem ++ ";\n")

/-- The name of the file of all record types. -/
def modelsFile : String := "models.rs"

/-- The name of the file that declares the modules. -/
def indexFile : String := "repositories/mod.rs"

/-- The name of the module of a table's repository. -/
def repositoryFile (p : Plan) : String := "repositories/" ++ p.fileStem ++ ".rs"

end SchemaCompiler.Access.Rust

import SchemaCompiler.Access.RustSource
import SchemaCompiler.Schema.Validation

/-!
# The files of access code

All tables of a schema are planned together, so that the names of their types and files can be held
apart; then the files are written for all tables or for one of them.

* `Artifacts` — files by their paths, in the order in which they were added.
* `plans` — the plans of all tables.
* `declarationSource` — a record type in its language.
* `generate`, `generateTable` — the files.
-/

namespace SchemaCompiler

/-! ## Files by their paths -/

/-- Files by their paths, each path once, in the order in which they were added. -/
abbrev Artifacts := List (String × String)

namespace Artifacts

/-- Puts a file under a path; a file that is there already is replaced in its place. -/
def put (path content : String) : Artifacts → Artifacts
  | [] => [(path, content)]
  | (p, c) :: rest => if p = path then (path, content) :: rest else (p, c) :: put path content rest

/-- The files put one after the other. -/
def ofList (files : List (String × String)) : Artifacts :=
  files.foldl (fun artifacts (path, content) => artifacts.put path content) []

end Artifacts

namespace Access

/-! ## Plans of a schema -/

/-- The plans of all tables, in declaration order.  File systems may ignore case, so the names of the
files have to differ in more than that. -/
def plans (schema : Schema) (language : TargetLanguage) : Except Error (List Plan) := do
  refuseFaulty schema.errors
  let plans ← schema.tables.mapM (Plan.ofTable · language)
  refuseConflict .typeNames (plans.flatMap (·.typeNames)) false
  refuseConflict .modules (plans.map (·.fileStem)) true
  return plans

/-- A record type in its language. -/
def declarationSource (d : Declaration) : String :=
  match d.language with
  | .typeScript => TypeScript.typeSource d
  | .rust => Rust.typeSource d

/-! ## Files -/

/-- The file of a table's repository. -/
def repositoryFile (pageSize : Nat) (p : Plan) : String × String :=
  match p.language with
  | .typeScript => (TypeScript.repositoryFile p, TypeScript.repositorySource p pageSize)
  | .rust => (Rust.repositoryFile p, Rust.repositorySource p pageSize)

/-- The file of all record types. -/
def typesFile (language : TargetLanguage) (plans : List Plan) : String × String :=
  match language with
  | .typeScript => (TypeScript.typesFile, TypeScript.typesSource plans)
  | .rust => (Rust.modelsFile, Rust.modelsSource plans)

/-- The file that declares the modules, in a language that has one. -/
def indexFiles (language : TargetLanguage) (plans : List Plan) : List (String × String) :=
  match language with
  | .typeScript => []
  | .rust => [(Rust.indexFile, Rust.indexSource plans)]

/-- The access code of every table. -/
def generate (schema : Schema) (language : TargetLanguage) (pageSize : Nat) :
    Except Error Artifacts := do
  let plans ← plans schema language
  return Artifacts.ofList
    (typesFile language plans :: indexFiles language plans ++ plans.map (repositoryFile pageSize))

/-- The access code of one table, with the record types of all. -/
def generateTable (schema : Schema) (language : TargetLanguage) (pageSize : Nat) (name : String) :
    Except Error Artifacts := do
  match schema.table? name with
  | none => .error (.schema (.unknownTable name))
  | some table =>
    let plans ← plans schema language
    match plans.find? (·.table == table.name) with
    | none => .error (.schema (.unknownTable name))
    | some plan => return Artifacts.ofList [typesFile language plans, repositoryFile pageSize plan]

end Access

end SchemaCompiler

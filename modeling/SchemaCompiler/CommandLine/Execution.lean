import SchemaCompiler.CommandLine.Invocation
import SchemaCompiler.Project

/-!
# Carrying out commands

A command line is answered by lines of output, lines about errors, and a status.  Files are read and
written where the surrounding place keeps them.

Faults of the schema are told apart from failures: a check lists every fault and fails only at the end.

* `Outcome` — the answer.
* `Failure` — why a command ends early, and its lines.
* `execute` — a command.
* `run` — a command line.
-/

namespace SchemaCompiler.CommandLine

/-! ## Outcomes -/

/-- The answer to a command line. -/
structure Outcome where
  status : Nat
  output : List String := []
  errors : List String := []
  deriving DecidableEq, Repr

/-- Why a command ends early. -/
inductive Failure where
  | operation (e : Error)
  /-- The failure of an operation during a named activity. -/
  | during (activity : String) (e : Error)
  | tableRename (entry : String)
  | columnRename (entry : String)
  /-- The schema has faults. -/
  | faulty (es : List SchemaError)
  deriving Repr

namespace Failure

/-- The failure as lines. -/
def lines : Failure → List String
  | operation e => ["Error: " ++ e.message]
  | during activity e => ["Error: " ++ activity, "", "Caused by:", "    " ++ e.message]
  | tableRename entry => ["Error: invalid table rename '" ++ entry ++ "', expected OLD=NEW"]
  | columnRename entry => ["Error: invalid column rename '" ++ entry ++ "', expected TABLE.OLD=NEW"]
  | faulty es =>
    es.map (fun e => "error: " ++ e.message)
      ++ ["Error: schema has " ++ Text.decimal es.length ++ " error(s)"]

/-- The status that a failure leads to.  To run out of numbers for migrations is no answer to the
command but the end of the program. -/
def status : Failure → Nat
  | operation .versionsExhausted => 101
  | _ => 1

/-- The answer to a command that fails. -/
def outcome (f : Failure) : Outcome := { status := f.status, errors := f.lines }

end Failure

/-- The answer to a command line that does not lead to a command. -/
def Refusal.outcome : Refusal → Outcome
  | misuse => { status := 2, errors := usage }
  | help => { status := 0, output := usage }
  | version => { status := 0, output := ["schema_architect 0.1.0"] }

/-! ## Renames -/

/-- The hints with a renamed table, written as two names with an equals sign between them. -/
def addTable (h : RenameHints) (entry : String) : Except Failure RenameHints :=
  match Text.splitOnce entry '=' with
  | some (old, new) => .ok (h.renameTable (Text.trim old) (Text.trim new))
  | none => .error (.tableRename entry)

/-- The hints with a renamed column, whose old name is written behind that of its table. -/
def addColumn (h : RenameHints) (entry : String) : Except Failure RenameHints :=
  match Text.splitOnce entry '=' with
  | some (place, new) =>
    match Text.splitOnce place '.' with
    | some (table, old) =>
      .ok (h.renameColumn (Text.trim table) (Text.trim old) (Text.trim new))
    | none => .error (.columnRename entry)
  | none => .error (.columnRename entry)

/-- The hints that the entries of a command line give. -/
def renameHints (tables columns : List String) : Except Failure RenameHints := do
  columns.foldlM addColumn (← tables.foldlM addTable {})

/-! ## Lines of output -/

/-- The lines about written files. -/
def writtenLines (files : Artifacts) : List String := files.map fun (path, _) => "wrote " ++ path

/-- The lines about a migration. -/
def migrationLines (m : Migration) : List String :=
  m.warnings.map (fun w => "warning: " ++ w.message)
    ++ if m.requiresBackup then
        ["migration " ++ Text.decimal m.version ++ " requires a backup before it is applied"]
      else []

/-! ## Commands -/

section Files

variable {m : Type → Type} [Monad m] [MonadFiles m]

/-- The settings in a file; at the default place there need not be one. -/
def loadSettings (path : String) : ExceptT Failure m Settings := do
  if Files.sameNames path defaultSettings && !(← MonadFiles.pathExists path) then return {}
  else ExceptT.adapt (.during ("loading " ++ path)) (Settings.load path)

/-- Opens the file that is logged to, if there is one. -/
def openLog (settings : Settings) : ExceptT Failure m Unit := do
  match settings.logging.bind (·.file) with
  | some path => unless ← MonadFiles.writeText path "" do throw (.operation .files)
  | none => return

/-- Writes files and says so. -/
def write (files : Artifacts) : ExceptT Failure m (List String) := do
  ExceptT.adapt (.during "writing generated files") (Project.writeArtifacts "." files)
  return writtenLines files

/-- Carries out a command on a schema; the lines of output. -/
def execute (settings : Settings) (schema : Schema) : Command → ExceptT Failure m (List String)
  | .renderSchema => do
    write (← liftExcept ((Project.schemaArtifacts settings schema).mapError Failure.operation))
  | .generateAccess table => do
    write (← liftExcept ((Project.repositoryArtifacts settings schema table).mapError Failure.operation))
  | .createMigration name allowDestructive tables columns => do
    let renames ← liftExcept (renameHints tables columns)
    let options := { allowDestructive := allowDestructive, renames := renames }
    let (migration, files) ←
      ExceptT.adapt .operation (Project.createMigration settings schema name options)
    return (← write files) ++ migrationLines migration
  | .check =>
    match schema.errors with
    | [] =>
      return ["schema is valid: " ++ Text.decimal schema.tables.length ++ " table(s)"]
    | es => throw (.faulty es)

/-- Carries out a command on the files that it is about; the lines of output. -/
def Invocation.execute (i : Invocation) : ExceptT Failure m (List String) := do
  let settings ← loadSettings i.settings
  openLog settings
  let schema ← ExceptT.adapt (.during ("loading schema " ++ i.schema))
    (Project.loadSchema settings i.schema)
  CommandLine.execute settings schema i.command

/-- Answers a command line. -/
def run (words : List String) : m Outcome := do
  match Invocation.parse words with
  | .error refusal => return refusal.outcome
  | .ok invocation =>
    match ← invocation.execute.run with
    | .ok lines => return { status := 0, output := lines }
    | .error failure => return failure.outcome

end Files

end SchemaCompiler.CommandLine

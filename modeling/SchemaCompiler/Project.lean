import SchemaCompiler.Access.Generator
import SchemaCompiler.Files.Tree
import SchemaCompiler.Migration.Compiler
import SchemaCompiler.Migration.History
import SchemaCompiler.Schema.Ddl
import SchemaCompiler.Schema.Diagram
import SchemaCompiler.Schema.Format

/-!
# Projects

A project keeps a schema document, settings, and the files derived from them.  Everything derived comes
as a list of files by their paths; nothing is written until it is asked for, and then below a directory.

The schema that the last migration led to is kept in a snapshot beside the migrations.  The next
migration starts there; without a snapshot it creates every table.  Migrations are numbered on from the
highest number among the names in their directory.

* `Settings.load`, `loadSchema` — what a project is made of.
* `schemaArtifacts`, `repositoryArtifacts`, `createMigration` — what is derived.
* `writeArtifacts` — puts files below a directory.
-/

namespace SchemaCompiler

open Files (join)

/-! ## Reading -/

section Reading

variable {m : Type → Type} [Monad m] [MonadFiles m]

/-- The settings in a file. -/
def Settings.load (path : String) : ExceptT Error m Settings := do
  match ← MonadFiles.readText path with
  | some text => Settings.parse text
  | none => throw (.settings (.unreadable path))

/-- The document in a file. -/
def SchemaDocument.load (path : String) : ExceptT Error m SchemaDocument := do
  let format ← liftExcept ((DocumentFormat.ofPath path).mapError Error.settings)
  match ← MonadFiles.readText path with
  | some text => SchemaDocument.parse format text
  | none => throw .files

end Reading

namespace Project

/-! ## Without files -/

/-- The text that creates the schema, and its diagram. -/
def schemaArtifacts (settings : Settings) (schema : Schema) : Except Error Artifacts := do
  refuseFaulty schema.errors
  return Artifacts.ofList [
    (settings.output.schemaFile, ← schema.ddl), (settings.output.diagramFile, schema.diagram)]

/-- The access code of all tables, or of one. -/
def repositoryArtifacts (settings : Settings) (schema : Schema) (table : Option String) :
    Except Error Artifacts := do
  let access := settings.access
  let files ← match table with
    | some name => Access.generateTable schema access.language access.pageSize name
    | none => Access.generate schema access.language access.pageSize
  return Artifacts.ofList (files.map fun (path, text) => (join access.outputDirectory path, text))

/-- What is asked of one migration. -/
structure MigrationOptions where
  /-- Allows actions that lose data, whatever the settings say. -/
  allowDestructive : Bool := false
  renames : RenameHints := {}

/-- The migration that leads to a schema from the schema of the snapshot, or from nothing. -/
def compileNext (settings : MigrationSettings) (options : MigrationOptions)
    (snapshot : Option Schema) (schema : Schema) (version : Nat) (name : String) :
    Except Error Migration :=
  let allow := settings.allowDestructive || options.allowDestructive
  match snapshot with
  | some current => Migration.compileDiff allow current schema options.renames version name
  | none => Migration.compileInitial allow schema version name

/-- The place of the snapshot. -/
def snapshotPath (settings : MigrationSettings) : String :=
  join settings.directory settings.snapshotFile

/-- The files of a migration: its own, the new snapshot, and the table that records what has been
run. -/
def migrationArtifacts (settings : MigrationSettings) (schema : Schema) (migration : Migration) :
    Except Error Artifacts := do
  return Artifacts.ofList [
    (join settings.directory (migration.filename settings.versionWidth), migration.renderFile),
    (snapshotPath settings, (SchemaDocument.ofSchema schema).toJson),
    (join settings.directory (settings.historyTable ++ ".sql"),
      ← trackingTableDdl settings.historyTable)]

/-- The highest number among names of files; zero if none has a number. -/
def latestAmong (names : List String) : Nat :=
  (names.filterMap Migration.versionOfFilename).foldl max 0

/-! ## With files -/

section Files

variable {m : Type → Type} [Monad m] [MonadFiles m]

/-- The schema in a file, with the indexes completed. -/
def loadSchema (settings : Settings) (path : String) : ExceptT Error m Schema := do
  let document ← SchemaDocument.load path
  (document.normalize settings.naming).toSchema

/-- The highest number in the directory of the migrations. -/
def latestVersion (directory : String) : ExceptT Error m Nat := do
  if ← MonadFiles.pathExists directory then
    match ← MonadFiles.entries directory with
    | some names => return latestAmong names
    | none => throw .files
  else return 0

/-- The schema in the snapshot, if there is one. -/
def loadSnapshot (settings : MigrationSettings) : ExceptT Error m (Option Schema) := do
  let path := snapshotPath settings
  if ← MonadFiles.pathExists path then
    let document ← SchemaDocument.load path
    return some (← document.toSchema)
  else return none

/-- The next migration for a schema, and its files. -/
def createMigration (settings : Settings) (schema : Schema) (name : String)
    (options : MigrationOptions) : ExceptT Error m (Migration × Artifacts) := do
  let settings := settings.migrations
  let latest ← latestVersion settings.directory
  let version ← (History.startingAfter latest).nextVersion
  let snapshot ← loadSnapshot settings
  let migration ← compileNext settings options snapshot schema version name
  return (migration, ← migrationArtifacts settings schema migration)

/-- Writes files below a directory, in order, up to the first that cannot be written. -/
def writeArtifacts (base : String) : Artifacts → ExceptT Error m Unit
  | [] => return
  | (path, text) :: rest => do
    if ← MonadFiles.writeText (join base path) text then writeArtifacts base rest
    else throw .files

end Files

end Project

end SchemaCompiler

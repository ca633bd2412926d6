import SchemaCompiler.Json.Decode
import SchemaCompiler.Schema.ScalarType

/-!
# Settings

How names are derived, where files go, and what may be done without asking.  Every setting has a
default, and a file of settings may name any part of them.

* `NamingSettings`, `MigrationSettings`, `AccessSettings`, `OutputSettings`, `LogSettings` — the parts.
* `Settings` — all of them.
* `Settings.decode` — settings from a document; what is not named keeps its default.
* `Settings.encode` — settings as a document with every default filled in.
-/

namespace SchemaCompiler

/-! ## The parts -/

/-- The names that are derived. -/
structure NamingSettings where
  /-- The pattern of index names, with places for the table and its columns. -/
  indexPattern : String := "idx_\x7btable\x7d_\x7bcolumns\x7d"
  /-- The most bytes of a derived name. -/
  maxIdentifierLength : Nat := 64
  deriving DecidableEq, Repr

/-- The files of migrations. -/
structure MigrationSettings where
  directory : String := "migrations"
  /-- The least number of digits of a version. -/
  versionWidth : Nat := 4
  historyTable : String := "schema_migrations"
  allowDestructive : Bool := false
  snapshotFile : String := ".schema_snapshot.json"
  deriving DecidableEq, Repr

/-- The files of access code. -/
structure AccessSettings where
  language : TargetLanguage := .typeScript
  outputDirectory : String := "generated"
  pageSize : Nat := 50
  deriving DecidableEq, Repr

/-- The files of a rendered schema. -/
structure OutputSettings where
  schemaFile : String := "schema.sql"
  diagramFile : String := "schema.mmd"
  deriving DecidableEq, Repr

/-- What is logged, and where. -/
structure LogSettings where
  level : String := "info"
  file : Option String := none
  format : String := "text"
  stdout : Bool := true
  deriving DecidableEq, Repr

/-- All settings. -/
structure Settings where
  naming : NamingSettings := {}
  migrations : MigrationSettings := {}
  access : AccessSettings := {}
  output : OutputSettings := {}
  logging : Option LogSettings := none
  deriving DecidableEq, Repr

/-! ## Levels of logging -/

/-- How much is logged. -/
inductive LogLevel where
  | trace
  | debug
  | info
  | warn
  | error
  deriving DecidableEq, Repr

/-- The level in capitals. -/
def LogLevel.name : LogLevel → String
  | .trace => "TRACE"
  | .debug => "DEBUG"
  | .info => "INFO"
  | .warn => "WARN"
  | .error => "ERROR"

/-- The level that a setting names, in any case; anything unknown stands for the middle one. -/
def LogLevel.ofSetting (s : String) : LogLevel :=
  match Text.toLowercase s with
  | "trace" => .trace
  | "debug" => .debug
  | "warn" => .warn
  | "error" => .error
  | _ => .info

/-! ## Reading -/

open Json

/-- A natural number that fits into 32 bits. -/
def asCount32 : Decoder Nat := fun j => do
  let n ← asCount j
  if n < twoTo 32 then return n else .error (.wrongValue j .count)

/-- The names of the languages. -/
def TargetLanguage.variants : List (String × TargetLanguage) :=
  [("typescript", .typeScript), ("rust", .rust)]

/-- A language: its name, or a table whose single entry has that name and is itself empty. -/
def TargetLanguage.decode : Decoder TargetLanguage
  | .string name => variantNamed variants name
  | .object [(name, .object [])] => variantNamed variants name
  | .object [(name, .array [])] => variantNamed variants name
  | j => .error (.wrongType j .variant)

/-- A record of settings in either of its two forms.  `read` is given a way to find the value of a
setting by its name and its place; a setting that is not there keeps the given default. -/
def settingsRecord {α : Type} (name : String)
    (read : (∀ {β : Type}, String → Nat → Decoder β → β → Except DecodeError β) →
      Except DecodeError α) : Decoder α :=
  record name
    (fun o => read fun key _ value fallback => return (← field o key value).getD fallback)
    (fun xs => read fun _ place value fallback => elementOr xs place value fallback)

/-- The settings of derived names. -/
def NamingSettings.decode : Decoder NamingSettings :=
  settingsRecord "NamingConfig" fun get => do
    let d : NamingSettings := {}
    return {
      indexPattern := ← get "index_pattern" 0 asText d.indexPattern
      maxIdentifierLength := ← get "max_identifier_length" 1 asCount d.maxIdentifierLength }

/-- The settings of migrations. -/
def MigrationSettings.decode : Decoder MigrationSettings :=
  settingsRecord "MigrationsConfig" fun get => do
    let d : MigrationSettings := {}
    return {
      directory := ← get "directory" 0 asText d.directory
      versionWidth := ← get "version_width" 1 asCount d.versionWidth
      historyTable := ← get "history_table" 2 asText d.historyTable
      allowDestructive := ← get "allow_destructive" 3 asFlag d.allowDestructive
      snapshotFile := ← get "snapshot_file" 4 asText d.snapshotFile }

/-- The settings of access code. -/
def AccessSettings.decode : Decoder AccessSettings :=
  settingsRecord "CodegenConfig" fun get => do
    let d : AccessSettings := {}
    return {
      language := ← get "language" 0 TargetLanguage.decode d.language
      outputDirectory := ← get "output_directory" 1 asText d.outputDirectory
      pageSize := ← get "page_size" 2 asCount32 d.pageSize }

/-- The settings of a rendered schema. -/
def OutputSettings.decode : Decoder OutputSettings :=
  settingsRecord "OutputConfig" fun get => do
    let d : OutputSettings := {}
    return {
      schemaFile := ← get "schema_file" 0 asText d.schemaFile
      diagramFile := ← get "diagram_file" 1 asText d.diagramFile }

/-- The settings of logging. -/
def LogSettings.decode : Decoder LogSettings :=
  settingsRecord "LoggingConfig" fun get => do
    let d : LogSettings := {}
    return {
      level := ← get "level" 0 asText d.level
      file := ← get "file" 1 (asOptional asText) d.file
      format := ← get "format" 2 asText d.format
      stdout := ← get "stdout" 3 asFlag d.stdout }

/-- All settings. -/
def Settings.decode : Decoder Settings :=
  settingsRecord "Config" fun get => do
    let d : Settings := {}
    return {
      naming := ← get "naming" 0 NamingSettings.decode d.naming
      migrations := ← get "migrations" 1 MigrationSettings.decode d.migrations
      access := ← get "codegen" 2 AccessSettings.decode d.access
      output := ← get "output" 3 OutputSettings.decode d.output
      logging := ← get "logging" 4 (asOptional LogSettings.decode) d.logging }

/-! ## Writing -/

/-- The settings as an object with every default filled in. -/
def Settings.encode (s : Settings) : Json :=
  let text (o : Option String) : Json := match o with
    | some x => .string x
    | none => .null
  .object [
    ("naming", .object [
      ("index_pattern", .string s.naming.indexPattern),
      ("max_identifier_length", .int s.naming.maxIdentifierLength)]),
    ("migrations", .object [
      ("directory", .string s.migrations.directory),
      ("version_width", .int s.migrations.versionWidth),
      ("history_table", .string s.migrations.historyTable),
      ("allow_destructive", .bool s.migrations.allowDestructive),
      ("snapshot_file", .string s.migrations.snapshotFile)]),
    ("codegen", .object [
      ("language", .string s.access.language.name),
      ("output_directory", .string s.access.outputDirectory),
      ("page_size", .int s.access.pageSize)]),
    ("output", .object [
      ("schema_file", .string s.output.schemaFile),
      ("diagram_file", .string s.output.diagramFile)]),
    ("logging", match s.logging with
      | some l => .object [
        ("level", .string l.level), ("file", text l.file), ("format", .string l.format),
        ("stdout", .bool l.stdout)]
      | none => .null)]

end SchemaCompiler

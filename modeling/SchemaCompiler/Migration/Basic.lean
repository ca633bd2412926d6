import SchemaCompiler.Migration.Action
import SchemaCompiler.Naming.Derived

/-!
# Migrations

A migration is a numbered, named list of actions with the SQL of both directions.  It is drafted from
its actions, gets its SQL once, and afterwards only records whether it has been run: the states follow
one another in a fixed order, and no step may be taken twice.

* `State` — draft, generated, applied, rolled back.
* `MigrationError` — what can go wrong between a schema and a migration.
* `Edit` — a change of something in its place, which may be refused.
* `Migration` — the migrations; `draft`, `generate`, `markApplied`, `markRolledBack` — their life.
* `Migration.filename`, `Migration.renderFile` — the file of a migration.
* `versionOfFilename` — the number that a file name begins with.
-/

namespace SchemaCompiler

namespace Migration

/-- How far a migration has come. -/
inductive State where
  | draft
  | generated
  | applied
  | rolledBack
  deriving DecidableEq, Repr

/-- The state in words. -/
def State.name : State → String
  | .draft => "draft"
  | .generated => "generated"
  | .applied => "applied"
  | .rolledBack => "rolled back"

/-- A finding that is worth knowing before a migration is run. -/
inductive Warning where
  | missingForeignKeyIndex (table column : String)
  | tableRebuild (table : String)
  | notNullWithoutDefault (table column : String)
  deriving DecidableEq, Repr

/-- The finding in words. -/
def Warning.message : Warning → String
  | .missingForeignKeyIndex table column =>
    "foreign key " ++ table ++ "." ++ column
      ++ " has no index leading with it; joins and cascades will scan the table"
  | .tableRebuild table =>
    "table " ++ table ++ " is rebuilt by copying its rows; expect a full table write"
  | .notNullWithoutDefault table column =>
    "column " ++ table ++ "." ++ column
      ++ " is NOT NULL without a default; copying existing rows will fail"

end Migration

/-- Failures while turning schemas into migrations. -/
inductive MigrationError where
  | destructiveActionBlocked (version : Nat) (action : Migration.Action)
  | nonMonotonicVersion (previous attempted : Nat)
  | unknownVersion (version : Nat)
  | invalidTransition (version : Nat) (current next : Migration.State)
  | emptyMigration (name : String)
  deriving DecidableEq, Repr

/-- The error in words. -/
def MigrationError.message : MigrationError → String
  | .destructiveActionBlocked version action =>
    "Migration " ++ Text.decimal version ++ " contains destructive action '" ++ action.describe
      ++ "'; pass allow_destructive to emit it"
  | .nonMonotonicVersion previous attempted =>
    "Migration version " ++ Text.decimal attempted ++ " does not follow version "
      ++ Text.decimal previous
  | .unknownVersion version => "Unknown migration version " ++ Text.decimal version
  | .invalidTransition version current next =>
    "Migration " ++ Text.decimal version ++ " cannot move from " ++ current.name ++ " to "
      ++ next.name
  | .emptyMigration name => "Migration '" ++ name ++ "' has no changes"

/-- A change of something in its place.  A change that is refused leaves behind what it has made of it by
then. -/
abbrev Edit (α : Type) := ExceptT MigrationError (StateM α)

/-- The answer to an edit, and what the edit leaves. -/
def Edit.perform {α : Type} (e : Edit α Unit) (a : α) : Except MigrationError Unit × α := e.run.run a

/-- What an edit makes of a value, unless it is refused. -/
def Edit.result {α : Type} (e : Edit α Unit) (a : α) : Except MigrationError α :=
  match e.perform a with
  | (.ok _, a) => .ok a
  | (.error e, _) => .error e

/-- A numbered pair of a change and its undoing. -/
structure Migration where
  version : Nat
  name : String
  actions : List Migration.Action
  upSql : String := ""
  downSql : String := ""
  state : Migration.State := .draft
  /-- When the migration was applied, in seconds since 1970. -/
  appliedAt : Option Int := none
  warnings : List Migration.Warning := []
  deriving DecidableEq, Repr

namespace Migration

/-! ## The life of a migration -/

/-- A migration that has no SQL yet. -/
def draft (version : Nat) (name : String) (actions : List Action) : Migration :=
  { version := version, name := name, actions := actions }

/-- Moves the migration on to its next state, if it is in the state before. -/
def advance (expected next : State) : Edit Migration Unit := do
  let m ← get
  if m.state = expected then set { m with state := next }
  else throw (.invalidTransition m.version m.state next)

/-- The draft with its SQL. -/
def generate (m : Migration) (upSql downSql : String) (warnings : List Warning) :
    Except MigrationError Migration :=
  Edit.result (do
    advance .draft .generated
    modify fun m => { m with upSql := upSql, downSql := downSql, warnings := warnings }) m

/-- Records that the migration was applied. -/
def markApplied (time : Int) : Edit Migration Unit := do
  advance .generated .applied
  modify fun m => { m with appliedAt := some time }

/-- Records that the migration was rolled back. -/
def markRolledBack : Edit Migration Unit := advance .applied .rolledBack

/-- Whether an action of the migration can lose data or objects. -/
def isDestructive (m : Migration) : Bool := m.actions.any (·.isDestructive)

/-- Whether a backup should be taken before the migration is run. -/
def requiresBackup (m : Migration) : Bool := m.actions.any (·.requiresBackup)

/-! ## The file of a migration -/

/-- The line before the statements that carry a migration out. -/
def upMarker : String := "-- +migrate Up"

/-- The line before the statements that undo a migration. -/
def downMarker : String := "-- +migrate Down"

/-- The name of the file: the number, padded with zeros, and the words of the name. -/
def filename (m : Migration) (width : Nat) : String :=
  Text.paddedDecimal width m.version ++ "_" ++ Naming.slug m.name ++ ".sql"

/-- The comment lines at the head of the file. -/
def header (m : Migration) : String :=
  "-- Migration " ++ Text.decimal m.version ++ ": " ++ m.name ++ "\n"
    ++ (if m.requiresBackup then
      "-- Take a backup before applying: this migration rewrites or removes data\n" else "")
    ++ String.join (m.warnings.map fun w => "-- WARNING: " ++ w.message ++ "\n")

/-- The file: a header, and a section for each direction behind its marker. -/
def renderFile (m : Migration) : String :=
  m.header ++ "\n" ++ upMarker ++ "\n" ++ m.upSql ++ "\n\n" ++ downMarker ++ "\n" ++ m.downSql ++ "\n"

/-! ## Numbers in file names -/

/-- The largest number that a migration can have. -/
def largestVersion : Nat := 4294967295

/-- The number that a run of digits stands for, unless it is too large. -/
def versionOfDigits (digits : List Char) : Option Nat :=
  let version := Text.digitsValue digits
  if version ≤ largestVersion then some version else none

/-- The number that the file name of a migration begins with: digits, an underscore, anything without
a path separator, and the ending `.sql`. -/
def versionOfFilename (name : String) : Option Nat :=
  let digits := name.toList.takeWhile Char.isDigit
  match name.toList.dropWhile Char.isDigit with
  | '_' :: rest =>
    let ending := ".sql".toList
    if !digits.isEmpty && rest.length ≥ ending.length
        && rest.drop (rest.length - ending.length) == ending
        && !rest.any (fun c => c == '/' || c == '\\') then versionOfDigits digits
    else none
  | _ => none

end Migration

end SchemaCompiler

import SchemaCompiler.Error
import SchemaCompiler.Sql.Printer

/-!
# The history of a database

The migrations made so far, in the order of their numbers.  A history may begin after a number: earlier
migrations then exist elsewhere, for instance as files.

* `History` — migrations above a floor; `History.latestVersion`, `History.nextVersion` — their numbers.
* `Edit.push`, `Edit.markApplied`, `Edit.markRolledBack` — changes of a history in its place.
* `History.push`, `History.markApplied`, `History.markRolledBack` — the histories they lead to.
* `trackingTable`, `trackingTableDdl` — the table in which a runner records what it has applied.
-/

namespace SchemaCompiler

/-- Migrations in the order of their numbers, all above a floor. -/
structure History where
  migrations : List Migration := []
  floor : Nat := 0
  deriving DecidableEq, Repr

namespace History

/-- The history that continues after a number. -/
def startingAfter (version : Nat) : History := { floor := version }

/-- The latest number given to a migration. -/
def latestVersion (h : History) : Nat :=
  match h.migrations.getLast? with
  | some m => m.version
  | none => h.floor

/-- The number for the next migration, as long as there is one. -/
def nextVersion (h : History) : Except Error Nat :=
  if h.latestVersion < Migration.largestVersion then .ok (h.latestVersion + 1)
  else .error .versionsExhausted

/-- The migration with a number. -/
def get? (h : History) (version : Nat) : Option Migration :=
  h.migrations.find? (·.version == version)

/-- The migrations that have not been applied, oldest first. -/
def pending (h : History) : List Migration := h.migrations.filter (·.state == .generated)

end History

/-! ## Changes of a history -/

namespace Edit

/-- Adds a migration, whose number has to be higher than all before. -/
def push (m : Migration) : Edit History Unit := do
  let h ← get
  if m.version ≤ h.latestVersion then throw (.nonMonotonicVersion h.latestVersion m.version)
  set { h with migrations := h.migrations ++ [m] }

/-- Edits the first migration with a number, in its place. -/
def changeFirst (version : Nat) (e : Edit Migration Unit) :
    List Migration → Except MigrationError Unit × List Migration
  | [] => (.error (.unknownVersion version), [])
  | m :: rest =>
    if m.version = version then
      let (answer, m) := e.perform m
      (answer, m :: rest)
    else
      let (answer, rest) := changeFirst version e rest
      (answer, m :: rest)

/-- Edits a migration of the history. -/
def change (version : Nat) (e : Edit Migration Unit) : Edit History Unit := do
  let h ← get
  let (answer, migrations) := changeFirst version e h.migrations
  set { h with migrations := migrations }
  MonadExcept.ofExcept answer

/-- Records that a migration was applied. -/
def markApplied (version : Nat) (time : Int) : Edit History Unit :=
  change version (Migration.markApplied time)

/-- Records that a migration was rolled back. -/
def markRolledBack (version : Nat) : Edit History Unit := change version Migration.markRolledBack

end Edit

namespace History

/-- The history with one more migration. -/
def push (h : History) (m : Migration) : Except MigrationError History := (Edit.push m).result h

/-- The history in which a migration was applied. -/
def markApplied (h : History) (version : Nat) (time : Int) : Except MigrationError History :=
  (Edit.markApplied version time).result h

/-- The history in which a migration was rolled back. -/
def markRolledBack (h : History) (version : Nat) : Except MigrationError History :=
  (Edit.markRolledBack version).result h

end History

/-! ## The tracking table -/

/-- The table in which a runner records the migrations that it has applied. -/
def trackingTable (name : String) : Sql.Statement :=
  .createTable
    { name := name
      ifNotExists := true
      columns := [⟨"version", "TEXT", [.unique]⟩, ⟨"name", "TEXT", []⟩,
        ⟨"applied_at", "TIMESTAMP", []⟩]
      constraints := []
      comment := none }

/-- The text that creates the tracking table. -/
def trackingTableDdl (name : String) : Except Error String :=
  return (← liftGeneration (trackingTable name).render) ++ "\n"

end SchemaCompiler

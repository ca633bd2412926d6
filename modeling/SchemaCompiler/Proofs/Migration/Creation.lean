import SchemaCompiler.Proofs.Migration.Layout
import SchemaCompiler.Proofs.Schema.Ordering

/-!
# Creating a schema

The migration that creates a schema has one action for each table, and the order of these actions is the
order of dependency.  Its down section undoes the last action first, so it drops the tables in the order
reversed, and no table is dropped while another one refers to it.

* `Migration.CreatesInOrder` — a migration that creates tables in an order and drops them in reverse.
* `compileInitial_eq_ok_iff` — what it takes for a schema to compile.
* **`dependencyOrder_correct`** — the order of dependency, and the migration that follows it.
-/

namespace SchemaCompiler.Migration

variable {schema : Schema} {allow : Bool} {version : Nat} {name : String} {m : Migration}
  {order : List Table}

/-! ## The migration of an order -/

/-- The migration creates the tables one after the other, each with its indexes, and its down section
drops them from the last to the first. -/
structure CreatesInOrder (m : Migration) (order : List Table) : Prop where
  actions : m.actions = order.map .createTable
  up : Sql.renderAll (order.flatMap (·.statements)) = .ok m.upSql
  down : Sql.renderAll (order.reverse.map fun t => .dropTable t.name false) = .ok m.downSql

lemma up_creations (order : List Table) :
    (order.map Action.createTable).flatMap (·.up) = order.flatMap (·.statements) := by
  rw [List.flatMap_map]
  rfl

lemma down_creations (order : List Table) :
    downStatements (order.map Action.createTable) =
      order.reverse.map fun t => .dropTable t.name false := by
  rw [downStatements, ← List.map_reverse, List.flatMap_map, List.map_eq_flatMap]
  rfl

lemma liftGeneration_eq_ok_iff {x : Except GenerationError String} {text : String} :
    liftGeneration x = .ok text ↔ x = .ok text := by
  cases x <;> simp [liftGeneration, Except.mapError]

/-- **What it takes for a schema to compile.** -/
theorem compileInitial_eq_ok_iff (herrors : schema.errors = [])
    (horder : schema.dependencyOrder = .ok order) :
    compileInitial allow schema version name = .ok m ↔
      compileActions allow version name (order.map .createTable) schema = .ok m := by
  unfold compileInitial
  rw [refuseFaulty_bind_eq_ok_iff, horder]
  simp [herrors, liftSchema, Except.mapError, bind, Except.bind]

lemma createsInOrder_of_compileActions {target : Schema}
    (h : compileActions allow version name (order.map .createTable) target = .ok m) :
    m.CreatesInOrder order := by
  obtain ⟨-, -, up, down, hup, hdown, rfl⟩ := compileActions_eq_ok_iff.1 h
  rw [up_creations, liftGeneration_eq_ok_iff] at hup
  rw [down_creations, liftGeneration_eq_ok_iff] at hdown
  exact ⟨rfl, hup, hdown⟩

/-- Creations need no permission; they compile if there is something to create and every name has a
written form. -/
lemma exists_compileActions_creations_iff {target : Schema} :
    (∃ m, compileActions allow version name (order.map .createTable) target = .ok m) ↔
      order ≠ [] ∧ ∀ t ∈ order, ∀ x ∈ t.statements.flatMap (·.names),
        Sql.identifierFault x = none := by
  have hnames : (∀ x ∈ (order.flatMap (·.statements)).flatMap (·.names), Sql.identifierFault x = none) ↔
      ∀ t ∈ order, ∀ x ∈ t.statements.flatMap (·.names), Sql.identifierFault x = none := by
    rw [List.flatMap_assoc]
    exact ⟨fun h t ht x hx => h x (List.mem_flatMap.2 ⟨t, ht, hx⟩), fun h x hx =>
      let ⟨t, ht, hx⟩ := List.mem_flatMap.1 hx
      h t ht x hx⟩
  rw [← hnames]
  constructor
  · rintro ⟨m, hm⟩
    obtain ⟨hempty, -, up, -, hup, -, -⟩ := compileActions_eq_ok_iff.1 hm
    rw [up_creations, liftGeneration_eq_ok_iff] at hup
    exact ⟨by rintro rfl; simp at hempty, Sql.exists_renderAll_iff.1 ⟨up, hup⟩⟩
  · rintro ⟨hne, hall⟩
    obtain ⟨up, hup⟩ := Sql.exists_renderAll hall
    obtain ⟨down, hdown⟩ : ∃ text,
        Sql.renderAll (order.reverse.map fun t => .dropTable t.name false) = .ok text := by
      refine Sql.exists_renderAll fun x hx => ?_
      obtain ⟨t, ht, rfl⟩ : ∃ t ∈ order, t.name = x := by
        simpa [List.flatMap_map, Sql.Statement.names, eq_comm] using hx
      exact hnames.1 hall t ht t.name (List.mem_flatMap.2
        ⟨t.toStatement, List.mem_cons_self, by simp [Table.toStatement, Sql.Statement.names,
          Sql.CreateTable.names]⟩)
    refine ⟨_, compileActions_eq_ok_iff.2 ⟨by simpa using hne, fun _ => ?_, up, down, ?_, ?_, rfl⟩⟩
    · simp [List.find?_eq_none, Action.isDestructive]
    · rw [up_creations, liftGeneration_eq_ok_iff, hup]
    · rw [down_creations, liftGeneration_eq_ok_iff, hdown]

/-! ## The order of dependency -/

open scoped Classical in
/-- **The order of dependency.**  There is an order exactly when no table depends on itself through
others; it has every table after those that it depends on, and at each position the one declared first
among those that could stand there.  Where there is none, the tables are reported from which a cycle can be
reached.  A valid schema compiles to the migration that creates its tables in this order and drops them in
the reverse order, if it has a table at all and its names can be written.

The counters of the search never go below zero (`Schema.placeReady?_dependencies`). -/
theorem dependencyOrder_correct (hlower : schema.LowercaseDistinct) :
    ((∃ order, schema.dependencyOrder = .ok order) ↔ Acyclic schema.DependsOn) ∧
      (∀ order, schema.dependencyOrder = .ok order → schema.IsDependencyOrder order) ∧
      (¬ Acyclic schema.DependsOn → schema.dependencyOrder = .error (.cyclicForeignKey
        ((schema.tables.filter (ReachesCycle schema.DependsOn ·)).map (·.name)))) ∧
      (schema.errors = [] → ∀ order, schema.dependencyOrder = .ok order → ∀ allow version name,
        (∀ m, compileInitial allow schema version name = .ok m → m.CreatesInOrder order) ∧
          ((∃ m, compileInitial allow schema version name = .ok m) ↔
            schema.tables ≠ [] ∧ ∀ t ∈ schema.tables, ∀ x ∈ t.statements.flatMap (·.names),
              Sql.identifierFault x = none)) := by
  refine ⟨Schema.exists_dependencyOrder_iff hlower,
    fun order => Schema.isDependencyOrder_of_dependencyOrder hlower,
    Schema.dependencyOrder_of_not_acyclic hlower, fun herrors order horder allow version name => ?_⟩
  have hperm := Schema.perm_of_dependencyOrder horder
  simp only [compileInitial_eq_ok_iff herrors horder]
  refine ⟨fun m => createsInOrder_of_compileActions, ?_⟩
  rw [exists_compileActions_creations_iff]
  refine and_congr (not_congr ⟨fun h => ?_, fun h => ?_⟩)
    (forall_congr' fun t => by rw [hperm.mem_iff])
  · subst h
    exact hperm.symm.eq_nil
  · rw [h] at hperm
    exact hperm.eq_nil

/-- Loans of books to members; a book may be a part of another one. -/
def librarySchema : Schema where
  tables := [
    { name := "loans", columns := [(Column.ofType "id" .integer).asPrimaryKey,
      (Column.ofType "book" .integer).referring "BOOKS" "id",
      (Column.ofType "lender" .integer).referring "members" "id",
      (Column.ofType "borrower" .integer).referring "Members" "id"] },
    { name := "notices", columns := [(Column.ofType "id" .integer).asPrimaryKey] },
    { name := "members", columns := [(Column.ofType "id" .integer).asPrimaryKey] },
    { name := "books", columns := [(Column.ofType "id" .integer).asPrimaryKey,
      ((Column.ofType "part_of" .integer).referring "books" "id").asNullable] }]
  relationships := []
  distinct := by decide +kernel

/-- The loans wait for two tables, although three of their columns refer to one; the books do not wait for
themselves. -/
theorem librarySchema_created : ∃ order m,
    librarySchema.dependencyOrder = .ok order ∧
      order.map (·.name) = ["notices", "members", "books", "loans"] ∧
      librarySchema.IsDependencyOrder order ∧
      compileInitial false librarySchema 1 "library" = .ok m ∧ m.CreatesInOrder order := by
  have hlower : librarySchema.LowercaseDistinct := by
    unfold Schema.LowercaseDistinct
    decide +kernel
  obtain ⟨-, horder, -, hcreates⟩ := dependencyOrder_correct hlower
  obtain ⟨order, hok, hnames⟩ : ∃ order, librarySchema.dependencyOrder = .ok order ∧
      order.map (·.name) = ["notices", "members", "books", "loans"] := ⟨_, rfl, rfl⟩
  obtain ⟨hcreated, hcompiles⟩ := hcreates (by decide +kernel) order hok false 1 "library"
  obtain ⟨m, hm⟩ := hcompiles.2 ⟨by simp [librarySchema], by decide +kernel⟩
  exact ⟨order, m, hok, hnames, horder order hok, hm, hcreated m hm⟩

end SchemaCompiler.Migration

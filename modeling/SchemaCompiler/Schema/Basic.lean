import SchemaCompiler.Schema.Table

/-!
# Schemas

A schema is a list of tables in declaration order with the relationships stated between them.  No two
tables have the same name in SQL, and the type says so: a schema is built by `insert`, which refuses a
table whose name is taken, and a look-up by name can therefore find one table at most.

* `Schema` — the schemas.
* `Schema.table?` — look-up by name.
* `Schema.insert`, `Schema.relate` — one more table, one more relationship.
* `Schema.references` — whether one table refers to another.
* `Schema.isJunction` — whether a table links two others.
-/

namespace SchemaCompiler

open Text (sameName)

/-- Tables with pairwise different names, and relationships. -/
structure Schema where
  tables : List Table
  relationships : List Relationship
  /-- No two tables have the same name. -/
  distinct : tables.Pairwise fun a b => sameName a.name b.name = false

namespace Schema

/-- The schema without tables. -/
def empty : Schema := ⟨[], [], .nil⟩

/-- The table with a name. -/
def table? (s : Schema) (name : String) : Option Table :=
  s.tables.find? fun t => sameName t.name name

/-- A name that no table has stays apart from every table's name. -/
theorem table?_eq_none_iff {s : Schema} {name : String} :
    s.table? name = none ↔ ∀ t ∈ s.tables, sameName t.name name = false := by
  simp [table?, List.find?_eq_none]

/-- The schema with one more table at the end, unless its name is taken. -/
def insert (s : Schema) (t : Table) : Except SchemaError Schema :=
  match h : s.table? t.name with
  | some _ => .error (.duplicateTable t.name)
  | none => .ok
    { s with
      tables := s.tables ++ [t]
      distinct := List.pairwise_append.2
        ⟨s.distinct, List.pairwise_singleton _ _, fun a ha b hb => by
          rw [List.mem_singleton.1 hb]
          exact table?_eq_none_iff.1 h a ha⟩ }

/-- The schema with one more relationship. -/
def relate (s : Schema) (r : Relationship) : Schema :=
  { s with relationships := s.relationships ++ [r] }

/-- Whether a table exists and has a foreign key to another. -/
def references (s : Schema) (source target : String) : Bool :=
  match s.table? source with
  | some t => t.foreignKeys.any fun (_, r) => sameName r.table target
  | none => false

/-- The table that a column refers to, its name folded for comparison. -/
def referredTable (t : Table) (column : String) : Option String :=
  ((t.column? column).bind (·.references)).map fun r => Text.toLowercase r.table

/-- Whether a table has a key constraint over two columns that refer to the two given tables, one to
each. -/
def isJunction (junction : Table) (a b : String) : Bool :=
  match junction.keyConstraint? with
  | some [first, second] =>
    let ends := (referredTable junction first, referredTable junction second)
    let a := some (Text.toLowercase a)
    let b := some (Text.toLowercase b)
    ends == (a, b) || ends == (b, a)
  | _ => false

end Schema

end SchemaCompiler

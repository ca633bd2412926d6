import SchemaCompiler.Schema.Basic

/-!
# Validation of a schema

A schema is checked as a whole, and every fault is reported: those of each table by itself, names of
indexes shared between tables, foreign keys without a unique column at their end, and relationships
that the foreign keys do not bear out.

* `Schema.foreignKeyErrors`, `Schema.tableErrors` — the faults found at one table.
* `Schema.relationshipErrors` — the faults of one relationship.
* `Schema.errors` — all faults, in declaration order.
-/

namespace SchemaCompiler.Schema

open Text (sameName)

/-! ## Tables -/

/-- The errors of a foreign key: its target is missing, or several rows may have the value referred
to. -/
def foreignKeyErrors (s : Schema) (t : Table) (c : Column) (target : ForeignKey) :
    List SchemaError :=
  match s.table? target.table with
  | none => [.danglingForeignKey t.name c.name target]
  | some found =>
    if !found.hasColumn target.column then [.danglingForeignKey t.name c.name target]
    else if !found.isUniqueColumn target.column then [.foreignKeyTargetNotUnique t.name c.name target]
    else []

/-- Index names with the table that declared each first. -/
abbrev IndexOwners := List (String × String)

/-- Goes through the indexes of one table: an index name that another table declared first is an
error, a name met for the first time belongs to this table. -/
def claimIndexes (table : String) : IndexOwners → List Index → IndexOwners × List SchemaError
  | owners, [] => (owners, [])
  | owners, i :: rest =>
    let key := Text.toLowercase i.name
    match owners.lookup key with
    | none => claimIndexes table ((key, table) :: owners) rest
    | some owner =>
      let (owners, errors) := claimIndexes table owners rest
      (owners, if owner = table then errors else .duplicateIndex i.name :: errors)

/-- The errors found at the tables, given who owns the index names met before. -/
def tableErrors (s : Schema) : IndexOwners → List Table → List SchemaError
  | _, [] => []
  | owners, t :: rest =>
    let (owners, shared) := claimIndexes t.name owners t.indexes
    t.errors ++ shared ++ t.foreignKeys.flatMap (fun (c, target) => s.foreignKeyErrors t c target)
      ++ s.tableErrors owners rest

/-! ## Relationships -/

/-- The tables that a relationship names without their being in the schema. -/
def unknownEnds (s : Schema) (r : Relationship) : List String :=
  ([r.source, r.target] ++ r.through.toList).filter fun name => (s.table? name).isNone

/-- Whether a table links the two ends of a relationship: the one that the relationship names, or
any. -/
def hasJunction (s : Schema) (r : Relationship) : Bool :=
  match r.through with
  | some name => (s.table? name).any fun t => isJunction t r.source r.target
  | none => s.tables.any fun t => isJunction t r.source r.target

/-- The errors of a relationship whose tables all exist. -/
def consistencyErrors (s : Schema) (r : Relationship) : List SchemaError :=
  let inconsistent := [SchemaError.inconsistentRelationship r.source r.target r.kind]
  match r.kind with
  | .oneToMany => if s.references r.target r.source then [] else inconsistent
  | .oneToOne =>
    if s.references r.target r.source || s.references r.source r.target then [] else inconsistent
  | .selfReferential =>
    if sameName r.source r.target && s.references r.source r.source then [] else inconsistent
  | .manyToMany => if s.hasJunction r then [] else [.missingJunctionTable r.source r.target]

/-- The errors of a relationship. -/
def relationshipErrors (s : Schema) (r : Relationship) : List SchemaError :=
  match s.unknownEnds r with
  | [] => s.consistencyErrors r
  | names => names.map .unknownTable

/-! ## The schema -/

/-- Every error of a schema. -/
def errors (s : Schema) : List SchemaError :=
  s.tableErrors [] s.tables ++ s.relationships.flatMap s.relationshipErrors

end SchemaCompiler.Schema

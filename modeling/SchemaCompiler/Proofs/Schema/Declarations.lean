import SchemaCompiler.Proofs.Schema.Validity
import Mathlib.Data.List.Basic
import Mathlib.Data.List.Forall2

/-!
# What a table definition declares

`Table.toStatement` decides with one flag how all columns are written: the primary key stands on its column
unless there is a key constraint.  This file reads the definition back, part by part, and compares what it
declares with what the table says.  Each kind of demand has a reading of its own, and together the readings
leave no part of a definition out, so what they find is all that is declared.

One thing is lost.  `AUTOINCREMENT` can be written behind an inline key only.  A composite key has no
counted column, so there the flag loses nothing; but the flag is the presence of a key constraint and not of
a composite key, and a key constraint over a single column leaves no place to say that the column counts.

* `ColumnDef.Declares`, `CreateTable.Declares` — a definition declares a column, and a table.
* `ColumnDef.Counts` — a definition counts its column up exactly if the column says so.
* **`Table.toStatement_declares`** — what the definition of a table without errors declares, and when it
  counts the right columns.
-/

namespace SchemaCompiler

open Text (sameName)

/-! ## Reading a definition -/

namespace Sql

/-- What follows `DEFAULT`. -/
def ColumnConstraint.default? : ColumnConstraint → Option String
  | .default expr => some expr
  | _ => none

/-- What stands between the parentheses of `CHECK`. -/
def ColumnConstraint.check? : ColumnConstraint → Option String
  | .check expr => some expr
  | _ => none

/-- The column referred to, and the action for its deletion. -/
def ColumnConstraint.reference? : ColumnConstraint → Option (ForeignKey × Option String)
  | .references table column onDelete => some (⟨table, column⟩, onDelete)
  | _ => none

/-- Whether a primary key counts up. -/
def ColumnConstraint.key? : ColumnConstraint → Option Bool
  | .primaryKey autoincrement => some autoincrement
  | _ => none

/-- The primary keys that are written on a column. -/
def ColumnDef.keys (d : ColumnDef) : List Bool := d.constraints.filterMap (·.key?)

/-- The columns of a key constraint. -/
def TableConstraintDef.key? : TableConstraintDef → Option (List String)
  | .primaryKey columns => some columns
  | .unique _ | .check _ => none

/-- The demand that a constraint makes. -/
def TableConstraintDef.demand : TableConstraintDef → TableConstraint
  | .primaryKey columns => .primaryKey columns
  | .unique columns => .unique columns
  | .check expr => .check expr

/-- The primary keys that a definition declares, those on columns before those of constraints. -/
def CreateTable.keys (d : CreateTable) : List (List String) :=
  d.columns.flatMap (fun c => c.keys.map fun _ => [c.name])
    ++ d.constraints.filterMap (·.key?)

end Sql

/-- What deleting a referenced row does if the reference is written with this action.  A reference without
one leaves the rows that refer to the deleted row alone. -/
def OnDelete.written? : Option String → Option OnDelete
  | none => some .noAction
  | some "CASCADE" => some .cascade
  | some "SET NULL" => some .setNull
  | some "SET DEFAULT" => some .setDefault
  | some "RESTRICT" => some .restrict
  | some "NO ACTION" => some .noAction
  | some _ => none

namespace Sql

/-- **The definition declares the column**: every demand that the column makes of its values is written once,
and no other.  Whether the column is the primary key is not its own affair; `CreateTable.keys` reads that. -/
structure ColumnDef.Declares (d : ColumnDef) (c : Column) : Prop where
  name : d.name = c.name
  typeName : d.typeName = c.scalarType.sqlName
  notNull : d.constraints.count .notNull = if c.nullable then 0 else 1
  /-- A key on the column makes its values unique. -/
  unique : d.constraints.count .unique = if c.unique ∧ d.keys = [] then 1 else 0
  default : d.constraints.filterMap (·.default?) = c.defaultValue.toList
  check : d.constraints.filterMap (·.check?) = c.check.toList
  reference : (d.constraints.filterMap (·.reference?)).map (fun r => (r.1, OnDelete.written? r.2)) =
    c.references.toList.map fun k => (k, some c.onDelete)

/-- The definition counts the column up exactly if the column says so. -/
def ColumnDef.Counts (d : ColumnDef) (c : Column) : Prop := true ∈ d.keys ↔ c.autoIncrement = true

/-- **The definition declares the table**: one primary key over the table's key, if it has one, its columns
and its constraints in their order, and nothing else. -/
structure CreateTable.Declares (d : CreateTable) (t : Table) : Prop where
  name : d.name = t.name
  comment : d.comment = t.comment
  /-- A table that is there already is an error. -/
  unguarded : d.ifNotExists = false
  columns : List.Forall₂ ColumnDef.Declares d.columns t.columns
  key : d.keys = if t.primaryKey = [] then [] else [t.primaryKey]
  constraints : d.constraints.map (·.demand) = t.constraints

end Sql

/-! ## Columns -/

namespace Column

@[simp]
lemma written?_writtenOnDelete (c : Column) : OnDelete.written? c.writtenOnDelete = some c.onDelete := by
  rw [writtenOnDelete]
  cases c.onDelete <;> rfl

variable (c : Column) (inlineKey : Bool)

/-- What a reading of constraints finds in a column's definition. -/
lemma filterMap_toDef {β : Type} (read : Sql.ColumnConstraint → Option β) :
    (c.toDef inlineKey).constraints.filterMap read =
      (if c.primaryKey && inlineKey then (read (.primaryKey c.autoIncrement)).toList else [])
        ++ (if c.nullable then [] else (read .notNull).toList)
        ++ (if c.unique && !(c.primaryKey && inlineKey) then (read .unique).toList else [])
        ++ c.defaultValue.toList.filterMap (fun expr => read (.default expr))
        ++ c.check.toList.filterMap (fun expr => read (.check expr))
        ++ c.references.toList.filterMap
            (fun r => read (.references r.table r.column c.writtenOnDelete)) := by
  simp only [toDef, List.filterMap_append, List.filterMap_map, Function.comp_def,
    apply_ite (List.filterMap read), List.filterMap_nil, List.filterMap_cons]
  rfl

lemma keys_toDef : (c.toDef inlineKey).keys =
    if c.primaryKey && inlineKey then [c.autoIncrement] else [] := by
  simp [Sql.ColumnDef.keys, filterMap_toDef, Sql.ColumnConstraint.key?]

lemma count_toDef (a : Sql.ColumnConstraint) : (c.toDef inlineKey).constraints.count a =
    ((c.toDef inlineKey).constraints.filterMap (Option.guard (· == a))).length := by
  rw [List.filterMap_eq_filter, List.count_eq_length_filter]

/-- **A column's definition declares the column**, wherever the key is written. -/
lemma declares_toDef : (c.toDef inlineKey).Declares c where
  name := rfl
  typeName := rfl
  notNull := by
    simp [count_toDef, filterMap_toDef, Option.guard, apply_ite List.length, List.filterMap_none]
  unique := by
    rw [keys_toDef, count_toDef, filterMap_toDef]
    cases c.primaryKey && inlineKey <;>
      simp [Option.guard, apply_ite List.length, List.filterMap_none]
  default := by
    simp [filterMap_toDef, Sql.ColumnConstraint.default?, List.filterMap_none]
  check := by
    simp [filterMap_toDef, Sql.ColumnConstraint.check?, List.filterMap_none]
  reference := by
    simp [filterMap_toDef, Sql.ColumnConstraint.reference?, Function.comp_def, List.filterMap_none]

/-- A column that counts up is the primary key. -/
lemma primaryKey_of_faults {c : Column} (h : c.faults = []) (hauto : c.autoIncrement = true) :
    c.primaryKey = true := by
  by_contra hkey
  simp [faults, hauto, hkey] at h

/-- The definition of a column counts right, unless the column counts up and the key is written elsewhere. -/
lemma counts_toDef_iff {c : Column} (h : c.faults = []) :
    (c.toDef inlineKey).Counts c ↔ (c.autoIncrement = true → inlineKey = true) := by
  rw [Sql.ColumnDef.Counts, keys_toDef]
  cases hauto : c.autoIncrement with
  | false => simp
  | true => simp [primaryKey_of_faults h hauto]

end Column

/-! ## Tables -/

namespace Table

variable {t : Table}

@[simp]
lemma demand_toDef (k : TableConstraint) : k.toDef.demand = k := by
  cases k <;> rfl

lemma key?_toDef (k : TableConstraint) : k.toDef.key? = k.keyColumns? := by
  cases k <;> rfl

lemma faults_of_columnErrors {table : String} {seen : List String} {cs : List Column}
    (h : columnErrors table seen cs = []) : ∀ c ∈ cs, c.faults = [] := by
  induction cs generalizing seen with
  | nil => simp
  | cons c rest ih =>
      simp only [columnErrors, List.append_eq_nil_iff, List.map_eq_nil_iff] at h
      obtain ⟨⟨-, hc⟩, hrest⟩ := h
      exact List.forall_mem_cons.2 ⟨hc, ih hrest⟩

/-- The first key constraint is the first of all keys that constraints declare. -/
lemma keyConstraint?_eq_head? (t : Table) :
    t.keyConstraint? = (t.constraints.filterMap (·.keyColumns?)).head? :=
  (List.head?_filterMap).symm

/-- **A table without errors has at most one key**, which is the columns of its only key constraint or, if
there is none, the only column that is marked as the key. -/
lemma keys_of_keyErrors (h : t.keyErrors = []) :
    t.constraints.filterMap (·.keyColumns?) = t.keyConstraint?.toList ∧
      (t.keyConstraint? = none → t.markedKey.length ≤ 1) := by
  rw [keyConstraint?_eq_head?]
  rw [keyErrors] at h
  split at h
  · rename_i hkeys
    rw [hkeys]
    refine ⟨rfl, fun _ => ?_⟩
    by_contra hlong
    simp [Nat.lt_of_not_le hlong] at h
  · rename_i key hkeys
    rw [hkeys]
    exact ⟨rfl, fun hnone => by simp at hnone⟩
  · simp at h

/-- A key constraint has columns. -/
lemma keyConstraint?_ne_some_nil (h : t.constraints.flatMap t.constraintErrors = []) :
    t.keyConstraint? ≠ some [] := by
  intro hnil
  obtain ⟨k, hk, hcols⟩ := List.exists_of_findSome?_eq_some hnil
  have hlists : k.listsNothing = true := by
    cases k <;> simp_all [TableConstraint.keyColumns?, TableConstraint.listsNothing]
  have := List.flatMap_eq_nil_iff.1 h k hk
  simp [constraintErrors, hlists] at this

/-- The keys that the columns of a definition declare: the marked ones where keys are written on columns. -/
lemma keys_columns_toDef (cs : List Column) (inlineKey : Bool) :
    (cs.map (·.toDef inlineKey)).flatMap (fun d => d.keys.map fun _ => [d.name]) =
      if inlineKey then ((cs.filter (·.primaryKey)).map (·.name)).map ([·]) else [] := by
  cases inlineKey with
  | false => simp [Column.keys_toDef, List.flatMap_map]
  | true =>
      induction cs with
      | nil => rfl
      | cons c rest ih =>
          have hname : (c.toDef true).name = c.name := rfl
          rw [List.map_cons, List.flatMap_cons, ih, Column.keys_toDef, hname]
          cases hkey : c.primaryKey <;> simp [hkey]

/-- The definition of a table without errors declares one primary key, over the table's key, or none if the
table has none. -/
lemma keys_toStatement (h : t.errors = []) {d : Sql.CreateTable} (hd : t.toStatement = .createTable d) :
    d.keys = if t.primaryKey = [] then [] else [t.primaryKey] := by
  simp only [errors, List.append_eq_nil_iff] at h
  obtain ⟨⟨⟨-, hkeys⟩, hconstraints⟩, -⟩ := h
  obtain ⟨hdeclared, hmarked⟩ := keys_of_keyErrors hkeys
  obtain rfl := Sql.Statement.createTable.inj hd
  have htable : (t.constraints.map (·.toDef)).filterMap (·.key?) = t.keyConstraint?.toList := by
    simp only [List.filterMap_map, Function.comp_def, key?_toDef, hdeclared]
  rw [Sql.CreateTable.keys, htable, keys_columns_toDef, primaryKey]
  cases hkey : t.keyConstraint? with
  | some key =>
      have hne : key ≠ [] := fun hnil => keyConstraint?_ne_some_nil hconstraints (hnil ▸ hkey)
      simp [hne]
  | none =>
      change t.markedKey.map ([·]) ++ [] = if t.markedKey = [] then [] else [t.markedKey]
      obtain hzero | hone := Nat.le_one_iff_eq_zero_or_eq_one.1 (hmarked hkey)
      · rw [List.length_eq_zero_iff.1 hzero]
        rfl
      · obtain ⟨name, hname⟩ := List.length_eq_one_iff.1 hone
        rw [hname]
        rfl

/-- The definition of a table without errors counts the right columns up exactly if no column counts up in a
table with a key constraint. -/
lemma counts_toStatement_iff (h : t.errors = []) {d : Sql.CreateTable}
    (hd : t.toStatement = .createTable d) :
    List.Forall₂ Sql.ColumnDef.Counts d.columns t.columns ↔
      ∀ c ∈ t.columns, c.autoIncrement = true → t.keyConstraint? = none := by
  simp only [errors, List.append_eq_nil_iff] at h
  have hfaults := faults_of_columnErrors h.1.1.1
  obtain rfl := Sql.Statement.createTable.inj hd
  rw [List.forall₂_map_left_iff, List.forall₂_same]
  refine forall₂_congr fun c hc => ?_
  rw [Column.counts_toDef_iff _ (hfaults c hc), Option.isNone_iff_eq_none]

/-- **The definition of a table says what the table says.**  For every table without errors the definition
declares one primary key over the table's key, and every column and constraint with all their demands, each
once and nothing else; and the columns that count up are the ones that should, exactly if none of them is in a
table with a key constraint. -/
theorem toStatement_declares (h : t.errors = []) : ∃ d, t.toStatement = .createTable d ∧ d.Declares t ∧
    (List.Forall₂ Sql.ColumnDef.Counts d.columns t.columns ↔
      ∀ c ∈ t.columns, c.autoIncrement = true → t.keyConstraint? = none) :=
  ⟨_, rfl,
    { name := rfl
      comment := rfl
      unguarded := rfl
      columns := List.forall₂_map_left_iff.2
        (List.forall₂_same.2 fun c _ => c.declares_toDef t.keyConstraint?.isNone)
      key := keys_toStatement h rfl
      constraints := by simp [Function.comp_def] },
    counts_toStatement_iff h rfl⟩

/-- A table whose rows are counted, with the key on its column. -/
def counterTable : Table where
  name := "counters"
  columns := [(Column.ofType "id" .integer).asAutoIncrement,
    ((Column.ofType "owner" .integer).referring "users" "id").withOnDelete .cascade,
    ((Column.ofType "label" .text).asUnique.withDefault "'new'").withCheck "length(label) < 80"]
  constraints := [.unique ["owner", "label"]]

/-- The key stands on its column and counts up. -/
theorem counterTable_declared : counterTable.errors = [] ∧
    (∀ c ∈ counterTable.columns, c.autoIncrement = true → counterTable.keyConstraint? = none) ∧
    ∃ d, counterTable.toStatement = .createTable d ∧ d.Declares counterTable ∧
      List.Forall₂ Sql.ColumnDef.Counts d.columns counterTable.columns ∧ d.keys = [["id"]] := by
  have herrors : counterTable.errors = [] := by decide +kernel
  have hinline : ∀ c ∈ counterTable.columns, c.autoIncrement = true →
      counterTable.keyConstraint? = none := by decide +kernel
  obtain ⟨d, hd, hdeclares, hcounts⟩ := toStatement_declares herrors
  exact ⟨herrors, hinline, d, hd, hdeclares, hcounts.2 hinline, hdeclares.key⟩

/-- The same table with the key in a constraint. -/
def keyedCounterTable : Table :=
  { counterTable with constraints := [.primaryKey ["id"], .unique ["owner", "label"]] }

/-- The table is accepted, its only key column counts up, and the definition does not say so. -/
theorem keyedCounterTable_not_counted : keyedCounterTable.errors = [] ∧
    keyedCounterTable.primaryKey = ["id"] ∧ keyedCounterTable.columns.any (·.autoIncrement) = true ∧
    ∀ d, keyedCounterTable.toStatement = .createTable d →
      ¬ List.Forall₂ Sql.ColumnDef.Counts d.columns keyedCounterTable.columns := by
  have herrors : keyedCounterTable.errors = [] := by decide +kernel
  refine ⟨herrors, by decide +kernel, by decide +kernel, fun d hd hcounts => ?_⟩
  have hnone := (counts_toStatement_iff herrors hd).1 hcounts
  exact absurd hnone (by decide +kernel)

end Table

end SchemaCompiler

import Mathlib.Logic.Function.Basic
import Mathlib.Tactic.Common
import SchemaCompiler.Proofs.Names
import SchemaCompiler.Schema.Renames

/-!
# What a database knows about its tables

A catalog gives each table name the definition that the database holds under it.  Names in a catalog are
folded, and a catalog is a function, so two catalogs that differ in the spelling of names or in the order
of tables are *equal*: what the theorems below state as an equation of catalogs is agreement up to both.
The columns of a table do have an order.

Migrations are read at two levels, and both run on the same catalog.  The actions of a migration carry
columns with all their properties, the statements carry column definitions.  What they share is that
renames reach names and the targets of foreign keys and nothing else; a catalog is therefore indexed by
the type `α` of everything about a column that no rename touches.

* `CatalogColumn`, `CatalogTable`, `Catalog` — columns, tables, catalogs.
* `Catalog.create`, `drop`, `renameTable`, `addColumn`, `dropColumn`, `renameColumn` — the changes of a
  catalog, each undefined where the database refuses it.
* `View` — a way of reading declared tables as tables of a catalog.
* `Catalog.of` — the catalog that holds given tables.
-/

namespace SchemaCompiler

open Text (sameName folded)

variable {α : Type}

/-! ## Columns and tables -/

/-- A column as a database holds it. -/
structure CatalogColumn (α : Type) where
  name : String
  attributes : α
  /-- The table and the column of each foreign key. -/
  targets : List (String × String)
  deriving DecidableEq

/-- A table as a database holds it. -/
structure CatalogTable (α : Type) where
  columns : List (CatalogColumn α)
  constraints : List TableConstraint
  deriving DecidableEq

/-- The tables of a database by their folded names. -/
abbrev Catalog (α : Type) : Type := String → Option (CatalogTable α)

/-- What a rename makes of a name: the old name becomes the new one. -/
def replaced (old new name : String) : String := if name = old then new else name

lemma replaced_of_ne {old new name : String} (h : name ≠ old) : replaced old new name = name :=
  if_neg h

@[simp] lemma replaced_self (old new : String) : replaced old new old = new := if_pos rfl

/-- Renaming back and forth changes nothing where the new name did not occur. -/
lemma replaced_replaced {old new name : String} (h : name ≠ new) :
    replaced new old (replaced old new name) = name := by
  by_cases ho : name = old
  · subst ho; simp
  · rw [replaced_of_ne ho, replaced_of_ne h]

namespace CatalogColumn

/-- The column with the table of its foreign keys renamed. -/
def retargetTable (old new : String) (c : CatalogColumn α) : CatalogColumn α :=
  { c with targets := c.targets.map fun k => (replaced old new k.1, k.2) }

/-- The column with the column of its foreign keys renamed, where they refer to `table`. -/
def retargetColumn (table old new : String) (c : CatalogColumn α) : CatalogColumn α :=
  { c with
    targets := c.targets.map fun k => (k.1, if k.1 = table then replaced old new k.2 else k.2) }

/-- The column under another name if it has the old one. -/
def rename (old new : String) (c : CatalogColumn α) : CatalogColumn α :=
  { c with name := replaced old new c.name }

end CatalogColumn

namespace CatalogTable

/-- Whether the table has a column. -/
def hasColumn (t : CatalogTable α) (name : String) : Bool := t.columns.any (·.name == name)

lemma hasColumn_iff {t : CatalogTable α} {name : String} :
    t.hasColumn name = true ↔ ∃ c ∈ t.columns, c.name = name := by
  simp [hasColumn]

lemma hasColumn_eq_false_iff {t : CatalogTable α} {name : String} :
    t.hasColumn name = false ↔ ∀ c ∈ t.columns, c.name ≠ name := by
  simp [hasColumn]

/-- The table after another one was renamed, or itself. -/
def retargetTable (old new : String) (t : CatalogTable α) : CatalogTable α :=
  { t with columns := t.columns.map (·.retargetTable old new) }

/-- The table after a column of some table was renamed. -/
def retargetColumn (table old new : String) (t : CatalogTable α) : CatalogTable α :=
  { t with columns := t.columns.map (·.retargetColumn table old new) }

/-- The table with one of its own columns renamed, in its constraints as well. -/
def renameColumn (old new : String) (t : CatalogTable α) : CatalogTable α :=
  { columns := t.columns.map (·.rename old new)
    constraints := t.constraints.map (·.mapColumns (replaced old new)) }

/-- The table with one more column, at the end. -/
def addColumn (t : CatalogTable α) (c : CatalogColumn α) : CatalogTable α :=
  { t with columns := t.columns ++ [c] }

/-- The table without a column. -/
def dropColumn (t : CatalogTable α) (name : String) : CatalogTable α :=
  { t with columns := t.columns.filter (·.name ≠ name) }

@[simp] lemma hasColumn_retargetTable (t : CatalogTable α) (old new name : String) :
    (t.retargetTable old new).hasColumn name = t.hasColumn name := by
  simp [hasColumn, retargetTable, List.any_map, Function.comp_def, CatalogColumn.retargetTable]

@[simp] lemma hasColumn_retargetColumn (t : CatalogTable α) (table old new name : String) :
    (t.retargetColumn table old new).hasColumn name = t.hasColumn name := by
  simp [hasColumn, retargetColumn, List.any_map, Function.comp_def, CatalogColumn.retargetColumn]

/-- A column added and dropped again leaves the table as it was. -/
lemma dropColumn_addColumn {t : CatalogTable α} {c : CatalogColumn α}
    (h : t.hasColumn c.name = false) : (t.addColumn c).dropColumn c.name = t := by
  rw [hasColumn_eq_false_iff] at h
  have hkeep : t.columns.filter (·.name ≠ c.name) = t.columns :=
    List.filter_eq_self.2 fun d hd => by simpa using h d hd
  simp only [dropColumn, addColumn, List.filter_append, hkeep]
  simp

end CatalogTable

/-! ## The changes of a catalog

Each change is undefined exactly where the database reports that a table or a column is missing or is
there already. -/

namespace Catalog

/-- The catalog with a new table. -/
def create (c : Catalog α) (name : String) (t : CatalogTable α) : Option (Catalog α) :=
  if (c name).isSome then none else some (Function.update c name (some t))

/-- The catalog without a table. -/
def drop (c : Catalog α) (name : String) : Option (Catalog α) :=
  if (c name).isSome then some (Function.update c name none) else none

/-- The catalog with a table changed. -/
def alter (c : Catalog α) (name : String) (f : CatalogTable α → Option (CatalogTable α)) :
    Option (Catalog α) :=
  (c name).bind fun t => (f t).map fun t' => Function.update c name (some t')

/-- The catalog with a table under another name; foreign keys of all tables follow. -/
def renameTable (c : Catalog α) (old new : String) : Option (Catalog α) :=
  match c old with
  | none => none
  | some t =>
    if (c new).isSome then none
    else some fun k =>
      (Function.update (Function.update c old none) new (some t) k).map (·.retargetTable old new)

/-- The catalog with one more column in a table. -/
def addColumn (c : Catalog α) (table : String) (column : CatalogColumn α) : Option (Catalog α) :=
  c.alter table fun t => if t.hasColumn column.name then none else some (t.addColumn column)

/-- The catalog without a column of a table. -/
def dropColumn (c : Catalog α) (table column : String) : Option (Catalog α) :=
  c.alter table fun t => if t.hasColumn column then some (t.dropColumn column) else none

/-- The table called `k` after a column of `table` was renamed. -/
def columnRenamed (table old new k : String) (t : CatalogTable α) : CatalogTable α :=
  (if k = table then t.renameColumn old new else t).retargetColumn table old new

/-- The catalog with a column under another name; foreign keys of all tables follow. -/
def renameColumn (c : Catalog α) (table old new : String) : Option (Catalog α) :=
  match c table with
  | none => none
  | some t =>
    if t.hasColumn old && !t.hasColumn new then
      some fun k => (c k).map (columnRenamed table old new k)
    else none

/-- Renames tables one after another. -/
def renameTables (c : Catalog α) (renames : List (String × String)) : Option (Catalog α) :=
  renames.foldlM (fun c p => c.renameTable (folded p.1) (folded p.2)) c

/-- Renames columns one after another. -/
def renameColumns (c : Catalog α) (renames : List ColumnRename) : Option (Catalog α) :=
  renames.foldlM (fun c r => c.renameColumn (folded r.table) (folded r.old) (folded r.new)) c

/-! ### What a change that is carried out has done -/

variable {c d : Catalog α}

lemma create_eq_some_iff {name : String} {t : CatalogTable α} :
    c.create name t = some d ↔ c name = none ∧ d = Function.update c name (some t) := by
  unfold create
  cases h : c name <;> simp [@eq_comm _ d]

lemma drop_eq_some_iff {name : String} :
    c.drop name = some d ↔ (c name).isSome ∧ d = Function.update c name none := by
  unfold drop
  cases h : c name <;> simp [@eq_comm _ d]

lemma addColumn_eq_some_iff {table : String} {column : CatalogColumn α} :
    c.addColumn table column = some d ↔
      ∃ t, c table = some t ∧ t.hasColumn column.name = false ∧
        d = Function.update c table (some (t.addColumn column)) := by
  unfold addColumn alter
  cases h : c table with
  | none => simp
  | some t => cases hc : t.hasColumn column.name <;> simp [hc, @eq_comm _ d]

lemma dropColumn_eq_some_iff {table column : String} :
    c.dropColumn table column = some d ↔
      ∃ t, c table = some t ∧ t.hasColumn column = true ∧
        d = Function.update c table (some (t.dropColumn column)) := by
  unfold dropColumn alter
  cases h : c table with
  | none => simp
  | some t => cases hc : t.hasColumn column <;> simp [hc, @eq_comm _ d]

lemma renameTable_eq_some_iff {old new : String} :
    c.renameTable old new = some d ↔
      ∃ t, c old = some t ∧ c new = none ∧
        d = fun k => (Function.update (Function.update c old none) new (some t) k).map
          (·.retargetTable old new) := by
  unfold renameTable
  cases h : c old with
  | none => simp
  | some t => cases hn : c new <;> simp [@eq_comm _ d]

lemma renameColumn_eq_some_iff {table old new : String} :
    c.renameColumn table old new = some d ↔
      ∃ t, c table = some t ∧ t.hasColumn old = true ∧ t.hasColumn new = false ∧
        d = fun k => (c k).map (columnRenamed table old new k) := by
  unfold renameColumn
  cases h : c table with
  | none => simp
  | some t => cases ho : t.hasColumn old <;> cases hn : t.hasColumn new <;>
      simp [ho, hn, @eq_comm _ d]

end Catalog

/-! ## Declared tables in a catalog -/

/-- A way of reading the columns of a declared table, insensitive to renames. -/
structure View (α : Type) where
  attributes : Table → Column → α
  /-- Renames change nothing of what is read. -/
  stable : ∀ (r : Renames) (t : Table) (new : String) (c : Column),
    attributes (r.apply t new) (r.applyToColumn new c) = attributes t c

namespace View

/-- A foreign key as a catalog holds it. -/
def target (k : ForeignKey) : String × String := (folded k.table, folded k.column)

/-- A declared column as a catalog holds it. -/
def column (v : View α) (t : Table) (c : Column) : CatalogColumn α :=
  { name := folded c.name
    attributes := v.attributes t c
    targets := c.references.toList.map target }

/-- A declared table as a catalog holds it. -/
def table (v : View α) (t : Table) : CatalogTable α :=
  { columns := t.columns.map (v.column t)
    constraints := t.constraints.map (·.mapColumns folded) }

lemma hasColumn_table (v : View α) (t : Table) (name : String) :
    (v.table t).hasColumn (folded name) = t.hasColumn name := by
  rw [Bool.eq_iff_iff, CatalogTable.hasColumn_iff, Table.hasColumn, Table.column?, List.find?_isSome]
  simp [table, column, Text.folded_eq_iff]

end View

/-- The catalog that holds the given tables. -/
def Catalog.of (v : View α) (tables : List Table) : Catalog α :=
  fun k => (tables.find? fun t => folded t.name == k).map v.table

/-- Tables with pairwise different names. -/
def DistinctNames (tables : List Table) : Prop :=
  tables.Pairwise fun a b => sameName a.name b.name = false

namespace DistinctNames

variable {tables : List Table}

/-- Two of the tables that have the same name are one. -/
lemma eq_of_sameName (h : DistinctNames tables) {a b : Table} (ha : a ∈ tables) (hb : b ∈ tables)
    (hab : sameName a.name b.name = true) : a = b := by
  by_contra hne
  have := List.Pairwise.forall_of_forall_of_flip
    (R := fun a b : Table => a = b ∨ sameName a.name b.name = false)
    (fun x _ => Or.inl rfl) (h.imp fun {a b} h => Or.inr h)
    (h.imp fun {a b} h => Or.inr (by rwa [Text.sameName_comm] at h)) ha hb
  rcases this with h | h
  · exact hne h
  · rw [hab] at h; exact absurd h (by decide)

lemma eq_of_folded (h : DistinctNames tables) {a b : Table} (ha : a ∈ tables) (hb : b ∈ tables)
    (hab : folded a.name = folded b.name) : a = b :=
  h.eq_of_sameName ha hb (Text.folded_eq_iff.1 hab)

/-- What all tables contribute to a list, cut down to the contribution of one of them. -/
lemma filter_flatMap {β : Type} (h : DistinctNames tables) {f : Table → List β} (key : β → String)
    (hkey : ∀ t ∈ tables, ∀ b ∈ f t, key b = folded t.name) {u : Table} (hu : u ∈ tables) :
    (tables.flatMap f).filter (fun b => key b == folded u.name) = f u := by
  induction tables with
  | nil => cases hu
  | cons t rest ih =>
      rw [DistinctNames, List.pairwise_cons] at h
      rw [List.flatMap_cons, List.filter_append]
      rcases List.mem_cons.1 hu with rfl | hu
      · have hhead : (f u).filter (fun b => key b == folded u.name) = f u :=
          List.filter_eq_self.2 fun b hb => by simp [hkey u (by simp) b hb]
        have hrest : (rest.flatMap f).filter (fun b => key b == folded u.name) = [] := by
          refine List.filter_eq_nil_iff.2 fun b hb hbu => ?_
          obtain ⟨t, ht, hbt⟩ := List.mem_flatMap.1 hb
          rw [hkey t (by simp [ht]) b hbt, beq_iff_eq, eq_comm] at hbu
          exact Text.folded_ne_iff.2 (h.1 t ht) hbu
        rw [hhead, hrest, List.append_nil]
      · have hhead : (f t).filter (fun b => key b == folded u.name) = [] := by
          refine List.filter_eq_nil_iff.2 fun b hb hbu => ?_
          rw [hkey t (by simp) b hb, beq_iff_eq] at hbu
          exact Text.folded_ne_iff.2 (h.1 u hu) hbu
        rw [hhead, List.nil_append, ih h.2 (fun t ht => hkey t (by simp [ht])) hu]

end DistinctNames

/-- Of elements with different keys, the one with a given key. -/
lemma filter_key_of_mem {β : Type} (key : β → String) {l : List β}
    (h : l.Pairwise fun a b => key a ≠ key b) {x : β} (hx : x ∈ l) :
    l.filter (fun b => key b == key x) = [x] := by
  induction l with
  | nil => cases hx
  | cons b rest ih =>
      rw [List.pairwise_cons] at h
      rcases List.mem_cons.1 hx with rfl | hx
      · rw [List.filter_cons_of_pos (by simp), List.filter_eq_nil_iff.2]
        intro c hc hcx
        exact h.1 c hc (beq_iff_eq.1 hcx).symm
      · rw [List.filter_cons_of_neg (by simpa using h.1 x hx), ih h.2 hx]

namespace Catalog

variable {v : View α} {tables : List Table} {k : String}

lemma of_eq_none_iff : Catalog.of v tables k = none ↔ ∀ t ∈ tables, folded t.name ≠ k := by
  simp [Catalog.of]

/-- A table is found under its name. -/
lemma of_eq_some_iff (h : DistinctNames tables) {e : CatalogTable α} :
    Catalog.of v tables k = some e ↔ ∃ t ∈ tables, folded t.name = k ∧ v.table t = e := by
  simp only [Catalog.of, Option.map_eq_some_iff]
  constructor
  · rintro ⟨t, hfind, rfl⟩
    exact ⟨t, List.mem_of_find?_eq_some hfind, by simpa using List.find?_some hfind, rfl⟩
  · rintro ⟨t, ht, rfl, rfl⟩
    cases hfind : tables.find? (fun u => folded u.name == folded t.name) with
    | none => simpa using List.find?_eq_none.1 hfind t ht
    | some u =>
        have hu : folded u.name = folded t.name := by simpa using List.find?_some hfind
        exact ⟨u, rfl, by rw [h.eq_of_folded (List.mem_of_find?_eq_some hfind) ht hu]⟩

lemma of_apply_mem (h : DistinctNames tables) {t : Table} (ht : t ∈ tables) :
    Catalog.of v tables (folded t.name) = some (v.table t) :=
  (of_eq_some_iff h).2 ⟨t, ht, rfl, rfl⟩

end Catalog

end SchemaCompiler

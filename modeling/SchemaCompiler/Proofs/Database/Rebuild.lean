import SchemaCompiler.Proofs.Database.Rows
import SchemaCompiler.Proofs.Migration.TableUndo

/-!
# What a rebuild does to rows

A rebuild creates the new form of a table under a staging name, copies the columns that both forms have, drops
the old table and gives the new one its name.  Run there and back, with a new form that has all columns of the
old one, it leaves every row and every index as it was, whatever values new columns get in between and
whatever the database would do to other tables if foreign keys were enforced meanwhile.

The definitions of tables are another matter.  A rename reaches the foreign keys of all tables, and that from
the staging name to the name of the table turns a foreign key which mentions the staging table into one that
mentions the table itself.  No table has the staging name, but foreign keys may mention tables that are not
there.  If none mentions the staging table, in the database or in the new form, definitions are what they
should be; if one does, they are not.

* `Store.Replaced`, `Store.exists_rebuild` — one rebuild, and everything that it does.
* `Store.Sound`, `Store.Rebuildable` — a database with rows, and one in which a table can be rebuilt.
* `Store.Rebuilt`, `Store.Restored` — what is shown after the rebuild, and after the way back.
* `Store.Rebuildable.definitions_iff` — when the definitions are right.
* **`Store.rebuild_round_trip`** — a rebuild that loses no column, there and back.
-/

namespace SchemaCompiler

open Text (sameName folded folded_eq_iff folded_ne_iff)
open Migration (Action stagingName staged sharedColumns rebuildStatements)

variable {β : Type}

/-! ## Foreign keys that a rename reaches -/

/-- A rename leaves the foreign keys of a table alone exactly if none of them mentions the old name. -/
lemma CatalogTable.retargetTable_eq_self_iff {α : Type} {t : CatalogTable α} {old new : String}
    (hne : old ≠ new) : t.retargetTable old new = t ↔ t.RefersTo (· ≠ old) := by
  have hcolumn : ∀ x : CatalogColumn α, x.retargetTable old new = x ↔ ∀ g ∈ x.targets, g.1 ≠ old := by
    intro x
    have htarget : ∀ g : String × String, (replaced old new g.1, g.2) = g ↔ g.1 ≠ old := by
      rintro ⟨a, b⟩
      simp only [Prod.mk.injEq, and_true]
      refine ⟨fun h ha => ?_, replaced_of_ne⟩
      rw [ha, replaced_self] at h
      exact hne h.symm
    have hlist : x.targets.map (fun g => (replaced old new g.1, g.2)) = x.targets ↔
        ∀ g ∈ x.targets, g.1 ≠ old := by
      conv_lhs => rhs; rw [← List.map_id x.targets]
      rw [List.map_inj_left]
      exact forall₂_congr fun g _ => htarget g
    rw [← hlist]
    exact ⟨congrArg CatalogColumn.targets, fun h => by rw [CatalogColumn.retargetTable, h]⟩
  have hlist : t.columns.map (·.retargetTable old new) = t.columns ↔ t.RefersTo (· ≠ old) := by
    conv_lhs => rhs; rw [← List.map_id t.columns]
    rw [List.map_inj_left]
    exact forall₂_congr fun x _ => hcolumn x
  rw [← hlist]
  exact ⟨congrArg CatalogTable.columns, fun h => by rw [CatalogTable.retargetTable, h]⟩

/-- The same for all tables of a catalog. -/
lemma Catalog.retargetTable_eq_self_iff {α : Type} {c : Catalog α} {old new : String} (hne : old ≠ new) :
    (fun k => (c k).map (·.retargetTable old new)) = c ↔ c.RefersTo (· ≠ old) := by
  rw [funext_iff]
  refine forall_congr' fun k => ?_
  cases hk : c k with
  | none => simp
  | some t => simp [CatalogTable.retargetTable_eq_self_iff hne]

/-! ## Columns that both forms have -/

/-- Every column of the table is a column of the other one. -/
def Table.ColumnsIn (t u : Table) : Prop :=
  ∀ k, (defined.table t).hasColumn k = true → (defined.table u).hasColumn k = true

lemma Table.exists_hasColumn {t : Table} (h : t.columns ≠ []) :
    ∃ k, (defined.table t).hasColumn k = true := by
  obtain ⟨c, hc⟩ := List.exists_mem_of_ne_nil _ h
  exact ⟨folded c.name, CatalogTable.hasColumn_iff.2 ⟨_, List.mem_map_of_mem hc, rfl⟩⟩

namespace Migration

variable {old new : Table} {k : String}

/-- The columns that are copied are those of both tables. -/
lemma exists_sharedColumn_iff : (∃ x ∈ sharedColumns old new, folded x = k) ↔
    (defined.table old).hasColumn k = true ∧ (defined.table new).hasColumn k = true := by
  simp only [sharedColumns, List.mem_map, List.mem_filter]
  constructor
  · rintro ⟨-, ⟨c, ⟨hc, hold⟩, rfl⟩, rfl⟩
    exact ⟨(defined.hasColumn_table old c.name).trans hold,
      CatalogTable.hasColumn_iff.2 ⟨_, List.mem_map_of_mem hc, rfl⟩⟩
  · rintro ⟨hold, hnew⟩
    obtain ⟨x, hx, rfl⟩ := CatalogTable.hasColumn_iff.1 hnew
    obtain ⟨c, hc, rfl⟩ := List.mem_map.1 hx
    exact ⟨c.name, ⟨c, ⟨hc, (defined.hasColumn_table old c.name).symm.trans hold⟩, rfl⟩, rfl⟩

lemma sharedColumns_ne_nil (hold : (defined.table old).hasColumn k = true)
    (hnew : (defined.table new).hasColumn k = true) : sharedColumns old new ≠ [] := by
  obtain ⟨x, hx, -⟩ := exists_sharedColumn_iff.2 ⟨hold, hnew⟩
  exact List.ne_nil_of_mem hx

/-- A rebuild that can lose nothing keeps every column. -/
lemma columnsIn_of_safe {dependents : List String}
    (hsafe : (Action.alterTable old new dependents).isDestructive = false) : old.ColumnsIn new := by
  intro k hk
  obtain ⟨x, hx, rfl⟩ := CatalogTable.hasColumn_iff.1 hk
  obtain ⟨c, hc, rfl⟩ := List.mem_map.1 hx
  have hlost : Action.lostColumns old new = [] := by
    simpa using (Bool.or_eq_false_iff.1 hsafe).1
  have hkept : new.hasColumn c.name = true := by
    by_contra hmissing
    have hmem : c ∈ old.columns.filter fun c => !new.hasColumn c.name :=
      List.mem_filter.2 ⟨hc, by simpa using hmissing⟩
    rw [List.map_eq_nil_iff.1 hlost] at hmem
    cases hmem
  exact (defined.hasColumn_table new c.name).trans hkept

end Migration

namespace Engine

open Migration

variable {e : Engine β} {old new : Table} {row : Row β} {k : String}

/-- The values of columns that both tables have are copied. -/
lemma inserted_of_shared (hold : (defined.table old).hasColumn k = true)
    (hnew : (defined.table new).hasColumn k = true) :
    e.inserted (defined.table new) (sharedColumns old new) row k = row k :=
  e.inserted_of_mem hnew (exists_sharedColumn_iff.2 ⟨hold, hnew⟩)

/-- What is copied of a row fits the new form. -/
lemma fits_copied (hrow : row.Fits (defined.table old)) :
    (e.inserted (defined.table new) (sharedColumns old new) row).Fits (defined.table new) :=
  e.fits_inserted fun x hx => (hrow _).trans (exists_sharedColumn_iff.1 ⟨x, hx, rfl⟩).1

/-- **A row that is copied into a form with all of its columns, and from there back, is what it was.** -/
lemma inserted_inserted (hkept : old.ColumnsIn new) (hrow : row.Fits (defined.table old)) :
    e.inserted (defined.table old) (sharedColumns new old)
      (e.inserted (defined.table new) (sharedColumns old new) row) = row := by
  funext k
  cases hk : (defined.table old).hasColumn k with
  | true => rw [inserted_of_shared (hkept k hk) hk, inserted_of_shared hk (hkept k hk)]
  | false =>
      have hnone : row k = none :=
        Option.isNone_iff_eq_none.1 (Option.isSome_eq_false_iff.1 ((hrow k).trans hk))
      rw [e.inserted_of_no_column hk, hnone]

end Engine

/-! ## One rebuild -/

/-- What the statements of a rebuild ask of a database. -/
structure Replaceable (db : Database) (old new : Table) : Prop where
  name : sameName old.name new.name = true
  columns : new.columns ≠ []
  valid : new.Valid
  /-- There is a column to copy. -/
  shared : sharedColumns old new ≠ []
  owned : db.Owned
  there : ∃ t, db.tables (folded new.name) = some t ∧ ∀ x, t.hasColumn x = (defined.table old).hasColumn x
  /-- No index is in the way of the table when it gets its name back. -/
  table : db.indexes (folded new.name) = none
  staging : db.tables (folded (stagingName new.name)) = none
  unindexed : db.indexes (folded (stagingName new.name)) = none
  indexes : ∀ i ∈ new.indexes, db.tables (folded i.name) = none

lemma staged_valid {t : Table} (h : t.Valid) : (staged t).Valid where
  columns := h.columns
  constrained := h.constrained
  owned := by simp [staged]
  indexed := by simp [staged]
  uncarried := by simp [staged]
  indexes := List.Pairwise.nil

/-- Spellings of a name have spellings of one name as staging names. -/
lemma folded_stagingName {a b : String} (h : folded a = folded b) :
    folded (stagingName a) = folded (stagingName b) := by
  have hab := Text.sameName_iff.1 (folded_eq_iff.1 h)
  refine folded_eq_iff.2 (Text.sameName_iff.2 ?_)
  simp only [Text.foldAscii, stagingName, String.toList_append, List.map_append] at hab ⊢
  rw [hab]

/-- The tables after a table has been replaced through its staging table: where a foreign key mentioned the
staging table it mentions the table. -/
def Catalog.swapped (c : Catalog Definition) (new : Table) : Catalog Definition := fun k =>
  (Function.update c (folded new.name) (some (defined.table new)) k).map
    (·.retargetTable (folded (stagingName new.name)) (folded new.name))

namespace Catalog

variable {c : Catalog Definition} {new : Table} {k : String}

lemma swapped_self : c.swapped new (folded new.name) =
    some ((defined.table new).retargetTable (folded (stagingName new.name)) (folded new.name)) := by
  rw [swapped, Function.update_self, Option.map_some]

lemma isSome_swapped (hthere : (c (folded new.name)).isSome = true) :
    (c.swapped new k).isSome = (c k).isSome := by
  rw [swapped, Option.isSome_map]
  by_cases hk : k = folded new.name
  · rw [hk, Function.update_self, Option.isSome_some, hthere]
  · rw [Function.update_of_ne hk]

lemma swapped_eq_none (hthere : (c (folded new.name)).isSome = true) (hk : c k = none) :
    c.swapped new k = none := by
  rw [← Option.isNone_iff_eq_none, ← Option.not_isSome, isSome_swapped hthere, hk]
  rfl

/-- The table is replaced, and nothing else happens, exactly if no foreign key mentions the staging table. -/
lemma swapped_eq_iff (hne : folded (stagingName new.name) ≠ folded new.name) :
    c.swapped new = Function.update c (folded new.name) (some (defined.table new)) ↔
      Catalog.RefersTo (Function.update c (folded new.name) (some (defined.table new)))
        (· ≠ folded (stagingName new.name)) :=
  retargetTable_eq_self_iff hne

end Catalog

/-- The statements of a rebuild with columns to copy. -/
lemma Migration.rebuildStatements_eq {old new : Table} (h : sharedColumns old new ≠ []) :
    rebuildStatements old new =
      [Sql.Statement.pragma "foreign_keys" (some "OFF"), .pragma "defer_foreign_keys" (some "ON")] ++
        ([(staged new).toStatement, .copyRows old.name (stagingName new.name) (sharedColumns old new),
          .dropTable old.name false, .renameTable (stagingName new.name) new.name] ++
        (new.indexStatements ++
          [Sql.Statement.pragma "foreign_key_check" none, .pragma "foreign_keys" (some "ON")])) := by
  simp [rebuildStatements, h]

namespace Store

variable {e : Engine β} {s s' : Store β} {old new : Table}

/-- The rows of all tables after a rebuild. -/
def rowsReplaced (e : Engine β) (rows : String → Multiset (Row β)) (old new : Table) :
    String → Multiset (Row β) :=
  Function.update (Function.update rows (folded (stagingName new.name)) 0) (folded new.name)
    ((rows (folded new.name)).map (e.inserted (defined.table new) (sharedColumns old new)))

lemma rowsReplaced_self {rows : String → Multiset (Row β)} : rowsReplaced e rows old new (folded new.name) =
    (rows (folded new.name)).map (e.inserted (defined.table new) (sharedColumns old new)) := by
  rw [rowsReplaced, Function.update_self]

lemma rowsReplaced_of_ne {rows : String → Multiset (Row β)} {k : String} (hk : k ≠ folded new.name)
    (hstaging : rows (folded (stagingName new.name)) = 0) : rowsReplaced e rows old new k = rows k := by
  rw [rowsReplaced, Function.update_of_ne hk]
  by_cases hG : k = folded (stagingName new.name)
  · rw [hG, Function.update_self, hstaging]
  · rw [Function.update_of_ne hG]

/-- What a rebuild does: the new form of a table, its indexes, and the rows of the old one. -/
structure Replaced (e : Engine β) (s s' : Store β) (old new : Table) : Prop where
  tables : s'.schema.tables = s.schema.tables.swapped new
  indexes : ∀ k, s'.schema.indexes k =
    ((s.schema.indexes k).filter fun i => !(i.owner == folded new.name)).or (new.indexAt k)
  rows : s'.rows = rowsReplaced e s.rows old new
  enforced : s'.enforced = true

/-- The new form of a table takes the place of the old one, and its rows. -/
lemma execAll_swap {tables : Catalog Definition} {indexes : String → Option CatalogIndex}
    {rows : String → Multiset (Row β)} (h : Replaceable ⟨tables, indexes⟩ old new) :
    execAll e ⟨⟨tables, indexes⟩, rows, false⟩
      [(staged new).toStatement, .copyRows old.name (stagingName new.name) (sharedColumns old new),
        .dropTable old.name false, .renameTable (stagingName new.name) new.name] =
      some ⟨⟨tables.swapped new, fun k => ((indexes k).filter (·.owner != folded new.name)).map
          (·.renameTable (folded (stagingName new.name)) (folded new.name))⟩,
        rowsReplaced e rows old new, false⟩ := by
  obtain ⟨t, ht, hcolumns⟩ : ∃ t, tables (folded new.name) = some t ∧ _ := h.there
  have hstaging : tables (folded (stagingName new.name)) = none := h.staging
  have hindex : indexes (folded new.name) = none := h.table
  have hfold : folded old.name = folded new.name := folded_eq_iff.2 h.name
  have hcreate : exec e ⟨⟨tables, indexes⟩, rows, false⟩ (staged new).toStatement =
      some ⟨⟨Function.update tables (folded (stagingName new.name)) (some (defined.table new)), indexes⟩,
        Function.update rows (folded (stagingName new.name)) 0, false⟩ :=
    exec_createTable (staged_valid h.valid) h.columns hstaging h.unindexed
  have hshared : ∀ x ∈ sharedColumns old new,
      t.hasColumn (folded x) = true ∧ (defined.table new).hasColumn (folded x) = true := fun x hx => by
    rw [hcolumns]
    exact Migration.exists_sharedColumn_iff.1 ⟨x, hx, rfl⟩
  unfold Catalog.swapped rowsReplaced
  set T := folded new.name with hT
  set G := folded (stagingName new.name) with hG
  have hne : T ≠ G := fun heq => by
    rw [← heq, ht] at hstaging
    cases hstaging
  rw [execAll_cons, hcreate, Option.bind_some,
    execAll_cons, exec_copyRows (by rw [hfold, Function.update_of_ne hne, ht])
      (by rw [← hG, Function.update_self]) hshared, Option.bind_some,
    execAll_cons, exec_dropTable (by rw [hfold, Function.update_of_ne hne, ht, Option.isSome_some]),
    Option.bind_some,
    execAll_singleton, exec_renameTable (t := defined.table new)
      (by rw [hfold, ← hG, Function.update_of_ne hne.symm, Function.update_self])
      (by rw [hfold, ← hT, Function.update_self]) (by rw [← hT, hindex, Option.filter_none])]
  have hlast : ∀ {γ : Type} (f : String → γ) (a b c d : γ),
      Function.update (Function.update (Function.update (Function.update f G a) T b) G c) T d =
        Function.update (Function.update f G c) T d := by
    intro γ f a b c d
    funext k
    simp only [Function.update_apply]
    split_ifs <;> rfl
  have hnone : Function.update tables G none = tables := by rw [← hstaging, Function.update_eq_self]
  rw [hfold, ← hT, ← hG, hlast, hnone, Function.update_idem, hlast, Function.update_of_ne hne.symm,
    Function.update_self, Function.update_self, Function.update_of_ne hne, Multiset.zero_add]

/-- The statements of a rebuild are carried out, and this becomes of rows and enforcement. -/
lemma exists_execAll_rebuild (h : Replaceable s.schema old new) :
    ∃ s', s.execAll e (rebuildStatements old new) = some s' ∧ s'.rows = rowsReplaced e s.rows old new ∧
      s'.enforced = true := by
  obtain ⟨⟨tables, indexes⟩, rows, enforced⟩ := s
  obtain ⟨t, ht, -⟩ : ∃ t, tables (folded new.name) = some t ∧ _ := h.there
  have hthere : (tables (folded new.name)).isSome = true := by rw [ht, Option.isSome_some]
  obtain ⟨db, hindexes⟩ : ∃ db, Database.execAll
      ⟨tables.swapped new, fun k => ((indexes k).filter (·.owner != folded new.name)).map
        (·.renameTable (folded (stagingName new.name)) (folded new.name))⟩
      new.indexStatements = some db := by
    rw [Table.indexStatements, Database.execAll_indexes h.valid Catalog.swapped_self
      (CatalogTable.hasColumn_retargetTable _ _ _) (List.Subset.refl _),
      if_pos fun i hi => Catalog.swapped_eq_none hthere (h.indexes i hi)]
    exact ⟨_, rfl⟩
  have hoff : enforcedAfter (enforcedAfter enforced (.pragma "foreign_keys" (some "OFF")))
      (.pragma "defer_foreign_keys" (some "ON")) = false := rfl
  rw [Migration.rebuildStatements_eq h.shared, execAll_append, execAll_cons, exec_pragma, Option.bind_some,
    execAll_singleton, exec_pragma, Option.bind_some, hoff, execAll_append, execAll_swap h,
    Option.bind_some, execAll_append, Table.indexStatements, execAll_createIndexes hindexes,
    Option.bind_some, execAll_cons, exec_pragma, Option.bind_some, execAll_singleton, exec_pragma]
  exact ⟨_, rfl, rfl, rfl⟩

/-- **The statements of a rebuild**, and everything that they do. -/
theorem exists_rebuild (h : Replaceable s.schema old new) :
    ∃ s', s.execAll e (rebuildStatements old new) = some s' ∧ Replaced e s s' old new := by
  obtain ⟨s', hrun, hrows, henforced⟩ := exists_execAll_rebuild (e := e) h
  obtain ⟨htables, hindexes⟩ := Database.execAll_rebuild h.owned h.name (schema_execAll hrun)
  exact ⟨s', hrun, (Catalog.eq_of_staged htables).2.2, hindexes, hrows, henforced⟩

/-! ## There and back -/

/-- A database as databases are: indexes lie on tables, tables and indexes have different names, rows are in
tables and fit them. -/
structure Sound (s : Store β) : Prop where
  owned : s.schema.Owned
  apart : ∀ k, (s.schema.tables k).isSome = true → s.schema.indexes k = none
  fits : ∀ k t, s.schema.tables k = some t → ∀ row ∈ s.rows k, row.Fits t
  empty : ∀ k, s.schema.tables k = none → s.rows k = 0

/-- A database with a table and its indexes, in which the names that a rebuild needs are free. -/
structure Rebuildable (s : Store β) (old new : Table) : Prop where
  sound : s.Sound
  name : sameName old.name new.name = true
  oldColumns : old.columns ≠ []
  newColumns : new.columns ≠ []
  oldErrors : old.errors = []
  newErrors : new.errors = []
  there : s.schema.tables (folded new.name) = some (defined.table old)
  indexes : ∀ k, (s.schema.indexes k).filter (·.owner == folded new.name) = old.indexAt k
  staging : s.schema.tables (folded (stagingName new.name)) = none
  unindexed : s.schema.indexes (folded (stagingName new.name)) = none
  /-- The name of a new index is not that of a table. -/
  free : ∀ i ∈ new.indexes, s.schema.tables (folded i.name) = none
  /-- Nor is it the staging name, under which the way back creates a table. -/
  apart : ∀ i ∈ new.indexes, folded i.name ≠ folded (stagingName new.name)
  /-- No other table has an index of that name. -/
  own : ∀ i ∈ new.indexes, ∀ x, s.schema.indexes (folded i.name) = some x → x.owner = folded new.name

/-- What a rebuild leaves, but for definitions: all rows with all their values, the new indexes on the table,
and of other tables the rows and indexes that they had.  The tables are the same ones, so the staging table is
not among them. -/
structure Rebuilt (s mid : Store β) (old new : Table) : Prop where
  rows : Multiset.Rel (fun row row' => row'.Fits (defined.table new) ∧
    ∀ k, (defined.table old).hasColumn k = true → row' k = row k)
      (s.rows (folded new.name)) (mid.rows (folded new.name))
  otherRows : ∀ k, k ≠ folded new.name → mid.rows k = s.rows k
  indexes : ∀ k, (mid.schema.indexes k).filter (·.owner == folded new.name) = new.indexAt k
  otherIndexes : ∀ k, (mid.schema.indexes k).filter (·.owner != folded new.name) =
    (s.schema.indexes k).filter (·.owner != folded new.name)
  tables : ∀ k, (mid.schema.tables k).isSome = (s.schema.tables k).isSome
  enforced : mid.enforced = true

/-- What the way back leaves, but for definitions: the rows and indexes of before. -/
structure Restored (s last : Store β) : Prop where
  rows : last.rows = s.rows
  indexes : last.schema.indexes = s.schema.indexes
  tables : ∀ k, (last.schema.tables k).isSome = (s.schema.tables k).isSome
  enforced : last.enforced = true

/-! ### Indexes on a table and on others -/

section Filter

variable {γ : Type} {p : γ → Bool} {x y : Option γ}

lemma filter_or_filter : (x.filter fun i => !p i).or (x.filter p) = x := by
  cases x with
  | none => rfl
  | some i => cases hp : p i <;> simp [Option.filter_some, hp]

lemma filter_replaced (hy : ∀ i ∈ y, p i = true) (hfree : ∀ i ∈ x, p i = false → y = none) :
    ((x.filter fun i => !p i).or y).filter p = y := by
  have hself : y.filter p = y := by
    cases y with
    | none => rfl
    | some j => simp [Option.filter_some, hy j rfl]
  cases x with
  | none => exact hself
  | some i =>
      cases hp : p i with
      | true => simpa [Option.filter_some, hp] using hself
      | false => simp [Option.filter_some, hp, hfree i rfl hp]

lemma filter_not_replaced (hy : ∀ i ∈ y, p i = true) :
    ((x.filter fun i => !p i).or y).filter (fun i => !p i) = x.filter fun i => !p i := by
  have hnone : y.filter (fun i => !p i) = none := Option.filter_eq_none_iff.2 fun j hj => by simp [hy j hj]
  cases x with
  | none => exact hnone
  | some i =>
      cases hp : p i with
      | true => simpa [Option.filter_some, hp] using hnone
      | false => simp [Option.filter_some, hp]

end Filter

/-! ### The rebuild -/

namespace Rebuildable

variable {mid last : Store β}

lemma owner_of_indexAt {t : Table} (ht : t.errors = []) {k : String} {x : CatalogIndex}
    (hx : t.indexAt k = some x) : x.owner = folded t.name := by
  obtain ⟨i, hi, rfl⟩ := Option.map_eq_some_iff.1 hx
  exact congrArg folded ((Table.valid_of_errors ht).owned i (List.mem_of_find?_eq_some hi))

lemma isSome (h : Rebuildable s old new) : (s.schema.tables (folded new.name)).isSome = true := by
  rw [h.there, Option.isSome_some]

lemma staging_ne (h : Rebuildable s old new) : folded (stagingName new.name) ≠ folded new.name := by
  intro heq
  have hstaging := h.staging
  rw [heq, h.there] at hstaging
  cases hstaging

lemma replaceable (h : Rebuildable s old new) (hkept : old.ColumnsIn new) :
    Replaceable s.schema old new where
  name := h.name
  columns := h.newColumns
  valid := Table.valid_of_errors h.newErrors
  shared := by
    obtain ⟨k, hk⟩ := Table.exists_hasColumn h.oldColumns
    exact Migration.sharedColumns_ne_nil hk (hkept _ hk)
  owned := h.sound.owned
  there := ⟨_, h.there, fun _ => rfl⟩
  table := h.sound.apart _ h.isSome
  staging := h.staging
  unindexed := h.unindexed
  indexes := h.free

/-- What the statements of the rebuild do is what is wanted of it. -/
lemma rebuilt (h : Rebuildable s old new) (hkept : old.ColumnsIn new) (hup : Replaced e s mid old new) :
    Rebuilt s mid old new where
  rows := by
    rw [hup.rows, rowsReplaced_self, Multiset.rel_map_right]
    refine Multiset.rel_refl_of_refl_on fun row hrow => ⟨?_, fun k hk => ?_⟩
    · exact Engine.fits_copied (h.sound.fits _ _ h.there row hrow)
    · exact Engine.inserted_of_shared hk (hkept k hk)
  otherRows k hk := by
    rw [hup.rows, rowsReplaced_of_ne hk (h.sound.empty _ h.staging)]
  indexes k := by
    rw [hup.indexes]
    refine filter_replaced (fun x hx => beq_iff_eq.2 (owner_of_indexAt h.newErrors hx)) fun x hx howner => ?_
    exact Table.indexAt_eq_none_iff.2 fun i hi hik => beq_eq_false_iff_ne.1 howner (h.own i hi x (hik ▸ hx))
  otherIndexes k := by
    rw [hup.indexes]
    exact filter_not_replaced fun x hx => beq_iff_eq.2 (owner_of_indexAt h.newErrors hx)
  tables k := by rw [hup.tables, Catalog.isSome_swapped h.isSome]
  enforced := hup.enforced

/-! ### The way back -/

/-- After the rebuild the database is one in which the old form can be put back. -/
lemma replaceable_back (h : Rebuildable s old new) (hkept : old.ColumnsIn new)
    (howned : mid.schema.Owned) (hup : Replaced e s mid old new) : Replaceable mid.schema new old := by
  have hfold : folded old.name = folded new.name := folded_eq_iff.2 h.name
  have hindexes : ∀ {k}, s.schema.indexes k = none → (∀ i ∈ new.indexes, folded i.name ≠ k) →
      mid.schema.indexes k = none := fun hs hnew => by
    rw [hup.indexes, hs, Table.indexAt_eq_none_iff.2 hnew]
    rfl
  have hnone : ∀ {k}, s.schema.tables k = none → mid.schema.tables k = none := fun hk => by
    rw [hup.tables, Catalog.swapped_eq_none h.isSome hk]
  refine
    { name := Text.sameName_symm h.name
      columns := h.oldColumns
      valid := Table.valid_of_errors h.oldErrors
      shared := ?_
      owned := howned
      there := ⟨_, by rw [hfold, hup.tables, Catalog.swapped_self],
        fun _ => CatalogTable.hasColumn_retargetTable _ _ _ _⟩
      table := ?_
      staging := ?_
      unindexed := ?_
      indexes := fun i hi => hnone ?_ }
  · obtain ⟨k, hk⟩ := Table.exists_hasColumn h.oldColumns
    exact Migration.sharedColumns_ne_nil (hkept _ hk) hk
  · rw [hfold]
    refine hindexes (h.sound.apart _ h.isSome) fun i hi hname => ?_
    have := h.free i hi
    rw [hname, h.there] at this
    cases this
  · rw [folded_stagingName hfold]
    exact hnone h.staging
  · rw [folded_stagingName hfold]
    exact hindexes h.unindexed h.apart
  · have hi : (s.schema.indexes (folded i.name)).filter (·.owner == folded new.name) = some i.held :=
      (h.indexes _).trans (Table.indexAt_of_mem (Table.valid_of_errors h.oldErrors).indexes hi)
    by_contra htable
    rw [h.sound.apart _ (Option.isSome_iff_ne_none.2 htable)] at hi
    cases hi

/-- Rows and indexes come back. -/
lemma restored (h : Rebuildable s old new) (hkept : old.ColumnsIn new)
    (hup : Replaced e s mid old new) (hdown : Replaced e mid last new old) : Restored s last := by
  have hfold : folded old.name = folded new.name := folded_eq_iff.2 h.name
  have hrebuilt := h.rebuilt hkept hup
  refine ⟨funext fun k => ?_, funext fun k => ?_, fun k => ?_, hdown.enforced⟩
  · by_cases hk : k = folded new.name
    · rw [hk, ← hfold, hdown.rows, rowsReplaced_self, hfold, hup.rows, rowsReplaced_self, Multiset.map_map]
      exact (Multiset.map_congr rfl fun row hrow =>
        Engine.inserted_inserted hkept (h.sound.fits _ _ h.there row hrow)).trans (Multiset.map_id' _)
    · have hstaging : mid.rows (folded (stagingName new.name)) = 0 := by
        rw [hrebuilt.otherRows _ h.staging_ne, h.sound.empty _ h.staging]
      rw [hdown.rows, rowsReplaced_of_ne (hfold ▸ hk) (folded_stagingName hfold ▸ hstaging),
        hrebuilt.otherRows k hk]
  · have hother : (mid.schema.indexes k).filter (fun i => !(i.owner == folded new.name)) =
      (s.schema.indexes k).filter (fun i => !(i.owner == folded new.name)) := hrebuilt.otherIndexes k
    rw [hdown.indexes, hfold, hother, ← h.indexes k]
    exact filter_or_filter
  · have hthere : (mid.schema.tables (folded old.name)).isSome = true := by
      rw [hfold, hrebuilt.tables, h.isSome]
    rw [hdown.tables, Catalog.isSome_swapped hthere, hrebuilt.tables]

end Rebuildable

/-! ### Definitions -/

/-- Both directions leave the definitions that they should exactly if no foreign key, of a table of the
database or of the new form, mentions the staging table. -/
lemma Rebuildable.definitions_iff {mid last : Store β} (h : Rebuildable s old new)
    (hup : Replaced e s mid old new) (hdown : Replaced e mid last new old) :
    (mid.schema.tables = Function.update s.schema.tables (folded new.name) (some (defined.table new)) ∧
      last.schema.tables = s.schema.tables) ↔
    s.schema.tables.RefersTo (· ≠ folded (stagingName new.name)) ∧
      (defined.table new).RefersTo (· ≠ folded (stagingName new.name)) := by
  have hfold : folded old.name = folded new.name := folded_eq_iff.2 h.name
  have hmid := Catalog.swapped_eq_iff (c := s.schema.tables) h.staging_ne
  rw [← hup.tables] at hmid
  -- where the way there has left the right definitions, the way back replaces one table of the old ones
  have hlast : mid.schema.tables =
        Function.update s.schema.tables (folded new.name) (some (defined.table new)) →
      (last.schema.tables = s.schema.tables ↔
        s.schema.tables.RefersTo (· ≠ folded (stagingName new.name))) := fun heq => by
    have hback : Function.update mid.schema.tables (folded new.name) (some (defined.table old)) =
        s.schema.tables := by
      rw [heq, Function.update_idem, ← h.there, Function.update_eq_self]
    have hne : folded (stagingName old.name) ≠ folded old.name := by
      rw [hfold, folded_stagingName hfold]
      exact h.staging_ne
    have hiff := Catalog.swapped_eq_iff (c := mid.schema.tables) hne
    rwa [← hdown.tables, hfold, folded_stagingName hfold, hback] at hiff
  constructor
  · rintro ⟨heq, hsame⟩
    exact ⟨(hlast heq).1 hsame, hmid.1 heq _ _ (Function.update_self ..)⟩
  · rintro ⟨hrefers, hnew⟩
    have heq := hmid.2 fun k t hk => ?_
    · exact ⟨heq, (hlast heq).2 hrefers⟩
    · by_cases hkT : k = folded new.name
      · rw [hkT, Function.update_self, Option.some.injEq] at hk
        exact hk ▸ hnew
      · rw [Function.update_of_ne hkT] at hk
        exact hrefers k t hk

/-! ### Databases that hold a schema -/

section Holding

variable {schema : Schema} {rows : String → Multiset (Row β)} {enforced : Bool}

/-- A database that holds a valid schema, with rows that fit its tables. -/
lemma sound_holding (hv : schema.Valid) (hcreatable : Creatable schema.tables)
    (hfits : ∀ t ∈ schema.tables, ∀ row ∈ rows (folded t.name), row.Fits (defined.table t))
    (hempty : ∀ k, (∀ t ∈ schema.tables, folded t.name ≠ k) → rows k = 0) :
    Sound ⟨.holding schema, rows, enforced⟩ where
  owned := Database.holding_owned hv
  apart k hk := by
    obtain ⟨t, ht⟩ := Option.isSome_iff_exists.1 hk
    obtain ⟨u, hu, rfl, -⟩ := (Catalog.of_eq_some_iff schema.distinct).1 ht
    refine Database.holding_indexes_eq_none_iff.2 fun w hw i hi => ?_
    exact folded_ne_iff.2 (hcreatable.apart w hw i hi u hu)
  fits k t ht := by
    obtain ⟨u, hu, rfl, rfl⟩ := (Catalog.of_eq_some_iff schema.distinct).1 ht
    exact hfits u hu
  empty k hk := hempty k (Catalog.of_eq_none_iff.1 hk)

/-- A table of a schema can be rebuilt where the names that are needed do not occur in the schema. -/
lemma rebuildable_holding (hsound : Sound ⟨.holding schema, rows, enforced⟩) (hv : schema.Valid)
    (hold : old ∈ schema.tables) (hname : sameName old.name new.name = true)
    (hcolumns : old.columns ≠ [] ∧ new.columns ≠ []) (herrors : old.errors = [] ∧ new.errors = [])
    (hstaging : ∀ t ∈ schema.tables, folded t.name ≠ folded (stagingName new.name) ∧
      ∀ i ∈ t.indexes, folded i.name ≠ folded (stagingName new.name))
    (hindexes : ∀ i ∈ new.indexes, folded i.name ≠ folded (stagingName new.name) ∧ ∀ t ∈ schema.tables,
      folded t.name ≠ folded i.name ∧ ∀ j ∈ t.indexes, folded j.name = folded i.name → t = old) :
    Rebuildable ⟨.holding schema, rows, enforced⟩ old new where
  sound := hsound
  name := hname
  oldColumns := hcolumns.1
  newColumns := hcolumns.2
  oldErrors := herrors.1
  newErrors := herrors.2
  there := by
    rw [← folded_eq_iff.2 hname]
    exact Catalog.of_apply_mem schema.distinct hold
  indexes k := by
    rw [← folded_eq_iff.2 hname]
    cases hk : (Database.holding schema).indexes k with
    | none => exact (Table.indexAt_eq_none_iff.2 (Database.holding_indexes_eq_none_iff.1 hk old hold)).symm
    | some x =>
        obtain ⟨t, ht, i, hi, rfl, rfl⟩ := (Database.holding_indexes_eq_some_iff hv).1 hk
        have howner : i.held.owner = folded t.name := congrArg folded ((hv.tables t ht).owned i hi)
        rw [Option.filter_some, howner]
        by_cases hsame : t = old
        · rw [hsame, beq_self_eq_true, if_pos rfl,
            Table.indexAt_of_mem (hv.tables old hold).indexes (hsame ▸ hi)]
        · have hother : (folded t.name == folded old.name) = false := beq_eq_false_iff_ne.2 fun h =>
            hsame (DistinctNames.eq_of_folded schema.distinct ht hold h)
          rw [hother, if_neg Bool.false_ne_true, eq_comm, Table.indexAt_eq_none_iff]
          exact fun j hj hji => hsame (hv.index_unique ht hold hi hj (folded_eq_iff.1 hji.symm)).1
  staging := Catalog.of_eq_none_iff.2 fun t ht => (hstaging t ht).1
  unindexed := Database.holding_indexes_eq_none_iff.2 fun t ht => (hstaging t ht).2
  free i hi := Catalog.of_eq_none_iff.2 fun t ht => ((hindexes i hi).2 t ht).1
  apart i hi := (hindexes i hi).1
  own i hi x hx := by
    obtain ⟨t, ht, j, hj, hji, rfl⟩ := (Database.holding_indexes_eq_some_iff hv).1 hx
    rw [← folded_eq_iff.2 hname, ← ((hindexes i hi).2 t ht).2 j hj hji]
    exact congrArg folded ((hv.tables t ht).owned j hj)

end Holding

/-! ## The round trip -/

/-- **A rebuild that can lose nothing, and its way back.**  Both are carried out; all rows keep their values
and come back as they were, indexes and other tables are what they should be, and foreign keys are enforced
afterwards.  Definitions are what they should be exactly if no foreign key mentions the staging table. -/
theorem rebuild_round_trip (e : Engine β) (s : Store β) (old new : Table) (h : Rebuildable s old new)
    (hsafe : (Action.alterTable old new []).isDestructive = false) :
    ∃ mid last, s.execAll e (Action.alterTable old new []).up = some mid ∧
      mid.execAll e (Action.alterTable old new []).down = some last ∧
      Rebuilt s mid old new ∧ Restored s last ∧
      ((mid.schema.tables = Function.update s.schema.tables (folded new.name) (some (defined.table new)) ∧
          last.schema.tables = s.schema.tables) ↔
        s.schema.tables.RefersTo (· ≠ folded (stagingName new.name)) ∧
          (defined.table new).RefersTo (· ≠ folded (stagingName new.name))) := by
  have hkept := Migration.columnsIn_of_safe hsafe
  obtain ⟨mid, hrun, hup⟩ := exists_rebuild (e := e) (h.replaceable hkept)
  have howned : mid.schema.Owned := h.sound.owned.execAll (schema_execAll hrun)
  obtain ⟨last, hback, hdown⟩ := exists_rebuild (e := e) (h.replaceable_back hkept howned hup)
  have hdowns : (Action.alterTable old new []).down = rebuildStatements new old := by
    simp [Action.down, hsafe]
  exact ⟨mid, last, hrun, hdowns ▸ hback, h.rebuilt hkept hup, h.restored hkept hup hdown,
    h.definitions_iff hup hdown⟩

end Store

/-! ### Readers, and nodes that refer to the staging table -/

/-- Those who borrow books. -/
def readerTable : Table :=
  { name := "readers", columns := [(Column.ofType "id" .integer).asPrimaryKey, .ofType "name" .text],
    indexes := [.ofColumns "by_name" "readers" ["name"]] }

/-- Their names may be missing, and they may have an address. -/
def reachableTable : Table :=
  { name := "Readers", columns := [(Column.ofType "email" .text).asNullable,
      (Column.ofType "id" .integer).asPrimaryKey, (Column.ofType "name" .text).asNullable],
    indexes := [.ofColumns "by_email" "Readers" ["email"]] }

/-- What they borrow. -/
def lendingTable : Table :=
  { name := "loans", columns := [(Column.ofType "id" .integer).asPrimaryKey,
      (Column.ofType "reader" .integer).referring "readers" "id"] }

/-- Readers and loans. -/
def readerSchema : Schema where
  tables := [readerTable, lendingTable]
  relationships := []
  distinct := by decide +kernel

/-- Two readers, one of them with a loan. -/
def readerStore : Store String where
  schema := .holding readerSchema
  rows k :=
    if k = "readers" then {Row.of [("id", "1"), ("name", "Ada")], Row.of [("id", "2"), ("name", "Max")]}
    else if k = "loans" then {Row.of [("id", "1"), ("reader", "2")]} else 0
  enforced := true

/-- An engine that writes empty texts and drops tables alone. -/
def Engine.plain : Engine String where
  fill _ _ := ""
  release s _ := some s.rows

lemma readerStore_rebuildable : readerStore.Rebuildable readerTable reachableTable := by
  have hv : readerSchema.Valid := Schema.valid_of_errors (by decide +kernel)
  refine Store.rebuildable_holding (Store.sound_holding hv (by decide +kernel) ?_ ?_) hv (by decide +kernel)
    (by decide +kernel) (by decide +kernel) (by decide +kernel) (by decide +kernel) (by decide +kernel)
  · intro t ht row hrow
    rcases List.mem_pair.1 ht with rfl | rfl
    · rw [if_pos (by decide +kernel)] at hrow
      rcases Multiset.mem_cons.1 hrow with rfl | hrow
      · exact Row.fits_of (by decide +kernel)
      · exact Multiset.mem_singleton.1 hrow ▸ Row.fits_of (by decide +kernel)
    · rw [if_neg (by decide +kernel), if_pos (by decide +kernel)] at hrow
      exact Multiset.mem_singleton.1 hrow ▸ Row.fits_of (by decide +kernel)
  · intro k hk
    have hreaders : k ≠ "readers" := Ne.symm (hk readerTable (by decide +kernel))
    have hloans : k ≠ "loans" := Ne.symm (hk lendingTable (by decide +kernel))
    rw [if_neg hreaders, if_neg hloans]

/-- Readers get an optional address, and the rebuild can be taken back. -/
theorem readerStore_rebuild_back : readerStore.Rebuildable readerTable reachableTable ∧
    (Action.alterTable readerTable reachableTable []).isDestructive = false ∧
    ∃ mid last, readerStore.execAll .plain (Action.alterTable readerTable reachableTable []).up = some mid ∧
      mid.execAll .plain (Action.alterTable readerTable reachableTable []).down = some last ∧
      readerStore.Rebuilt mid readerTable reachableTable ∧ readerStore.Restored last ∧
      mid.schema.tables = Function.update readerStore.schema.tables (folded reachableTable.name)
        (some (defined.table reachableTable)) ∧
      last.schema.tables = readerStore.schema.tables := by
  have hsafe : (Action.alterTable readerTable reachableTable []).isDestructive = false := by decide +kernel
  have hnone : ∀ t ∈ [readerTable, lendingTable, reachableTable], ∀ x ∈ (defined.table t).columns,
      ∀ g ∈ x.targets, g.1 ≠ folded (stagingName reachableTable.name) := by decide +kernel
  have hrefers : readerStore.schema.tables.RefersTo (· ≠ folded (stagingName reachableTable.name)) := by
    intro k t ht
    obtain ⟨u, hu, -, rfl⟩ := (Catalog.of_eq_some_iff readerSchema.distinct).1 ht
    exact hnone u (List.mem_append_left [reachableTable] hu)
  obtain ⟨mid, last, hup, hdown, hrebuilt, hrestored, hdefinitions⟩ :=
    Store.rebuild_round_trip .plain readerStore readerTable reachableTable readerStore_rebuildable hsafe
  obtain ⟨hmid, hlast⟩ := hdefinitions.2 ⟨hrefers, hnone reachableTable (by decide +kernel)⟩
  exact ⟨readerStore_rebuildable, hsafe, mid, last, hup, hdown, hrebuilt, hrestored, hmid, hlast⟩

/-- Nodes of a list. -/
def nodeTable : Table := { name := "nodes", columns := [(Column.ofType "id" .integer).asPrimaryKey] }

/-- They refer to a table that would have the staging name. -/
def linkedTable : Table :=
  { name := "nodes", columns := [(Column.ofType "id" .integer).asPrimaryKey,
      ((Column.ofType "next" .integer).asNullable).referring "_nodes_new" "id"] }

/-- The nodes alone. -/
def nodeSchema : Schema where
  tables := [nodeTable]
  relationships := []
  distinct := by decide +kernel

/-- A database that holds them, without rows. -/
def nodeStore : Store String where
  schema := .holding nodeSchema
  rows _ := 0
  enforced := true

/-- No table has the staging name, but the new form refers to it, and after the rebuild it refers to
itself. -/
theorem nodeStore_rebuild_redirects : nodeStore.Rebuildable nodeTable linkedTable ∧
    (Action.alterTable nodeTable linkedTable []).isDestructive = false ∧
    ∃ mid, nodeStore.execAll .plain (Action.alterTable nodeTable linkedTable []).up = some mid ∧
      (mid.schema.tables "nodes").map (·.columns.map (·.targets)) = some [[], [("nodes", "id")]] ∧
      (defined.table linkedTable).columns.map (·.targets) = [[], [("_nodes_new", "id")]] := by
  have hv : nodeSchema.Valid := Schema.valid_of_errors (by decide +kernel)
  have hrebuildable : nodeStore.Rebuildable nodeTable linkedTable :=
    Store.rebuildable_holding (Store.sound_holding hv (by decide +kernel)
      (fun _ _ _ hrow => absurd hrow (Multiset.notMem_zero _)) (fun _ _ => rfl)) hv (by decide +kernel)
      (by decide +kernel) (by decide +kernel) (by decide +kernel) (by decide +kernel) (by decide +kernel)
  have hsafe : (Action.alterTable nodeTable linkedTable []).isDestructive = false := by decide +kernel
  obtain ⟨mid, hrun, hup⟩ := Store.exists_rebuild (e := Engine.plain)
    (hrebuildable.replaceable (Migration.columnsIn_of_safe hsafe))
  refine ⟨hrebuildable, hsafe, mid, hrun, ?_, by decide +kernel⟩
  rw [hup.tables]
  decide +kernel

end SchemaCompiler

import SchemaCompiler.Proofs.Schema.Validity
import SchemaCompiler.Schema.Diff

/-!
# Which table becomes which

The comparison of two schemas walks through the tables of the new one and asks for the old table whose
place each of them takes.  A proof also needs the other direction: what becomes of an old table.  As long
as the renames that count share no names, the two questions have the same answer.

* `Renames.Fits` — what every rename that counts has been tested for.
* `Renames.source` — the old table whose place a table of the new schema takes.
* `Renames.source_eq_some_iff` — it is the old table with that name after the renames.
* `Renames.inOrder` — the column renames in the order in which a migration carries them out.
* `Overlooked` — the old tables that are neither kept nor dropped.

The last notion is empty for schemas whose table names have different small forms.  Otherwise a table
can share the small form of another one that is kept; the comparison then takes it for kept as well, and
the migration leaves it alone.
-/

namespace SchemaCompiler

open Text (sameName folded folded_eq_iff folded_ne_iff sameName_congr_left sameName_congr_right)

variable {current target : Schema} {r : Renames}

namespace Renames

/-! ## The tests that a rename has passed -/

/-- Each rename can be true of the two schemas. -/
structure Fits (r : Renames) (current target : Schema) : Prop where
  tables : ∀ p ∈ r.tables, tableHolds current target p.1 p.2 = true
  columns : ∀ c ∈ r.columns, columnHolds current target r c = true

/-- The hints that count can be true. -/
lemma resolve_fits (current target : Schema) (hints : RenameHints) :
    (resolve current target hints).Fits current target where
  tables p hp := by simpa using (List.mem_filter.1 hp).2
  columns c hc := (List.mem_filter.1 hc).2

lemma apart_resolve {hints : RenameHints} (h : TablesApart hints.tables) :
    TablesApart (resolve current target hints).tables := List.Pairwise.filter _ h

lemma columnsApart_resolve {hints : RenameHints} (h : ColumnsApart hints.columns) :
    ColumnsApart (resolve current target hints).columns := List.Pairwise.filter _ h

/-- What a table rename has been tested for, table by table. -/
lemma Fits.of_mem (h : r.Fits current target) {p : String × String} (hp : p ∈ r.tables) :
    (∃ t ∈ current.tables, sameName t.name p.1 = true) ∧
      (∃ u ∈ target.tables, sameName u.name p.2 = true) ∧
      (∀ u ∈ target.tables, sameName u.name p.1 = false) ∧
      ∀ t ∈ current.tables, sameName t.name p.2 = false := by
  have := h.tables p hp
  simp only [tableHolds, Bool.and_eq_true, Option.isSome_iff_exists, Option.isNone_iff_eq_none] at this
  obtain ⟨⟨⟨⟨t, ht⟩, ⟨u, hu⟩⟩, hold⟩, hnew⟩ := this
  exact ⟨⟨t, Schema.mem_of_table?_eq_some ht⟩, ⟨u, Schema.mem_of_table?_eq_some hu⟩,
    Schema.table?_eq_none_iff.1 hold, Schema.table?_eq_none_iff.1 hnew⟩

lemma Fits.tablesFit (h : r.Fits current target) : TablesFit current.tables r.tables :=
  fun _ hp => ⟨(h.of_mem hp).1, (h.of_mem hp).2.2.2⟩

/-! ## The table whose place is taken -/

/-- The old table whose place a table of the new schema takes. -/
def source (r : Renames) (current : Schema) (u : Table) : Option Table :=
  current.table? (r.oldTable u.name)

/-- Either a rename leads to a table name, or none does. -/
lemma oldTable_cases (r : Renames) (x : String) :
    (∃ p ∈ r.tables, sameName p.2 x = true ∧ r.oldTable x = p.1) ∨
      ((∀ p ∈ r.tables, sameName p.2 x = false) ∧ r.oldTable x = x) := by
  cases h : r.tables.find? fun p => sameName p.2 x with
  | some p =>
      have hp : sameName p.2 x = true := by simpa using List.find?_some h
      refine Or.inl ⟨p, List.mem_of_find?_eq_some h, hp, ?_⟩
      simp only [oldTable, h]
  | none =>
      refine Or.inr ⟨fun p hp => by simpa using List.find?_eq_none.1 h p hp, ?_⟩
      simp only [oldTable, h]

lemma folded_oldTable_congr (r : Renames) {x y : String} (h : sameName x y = true) :
    folded (r.oldTable x) = folded (r.oldTable y) := by
  simp only [oldTable, fun p : String × String => sameName_congr_right h p.2]
  cases r.tables.find? fun p => sameName p.2 y with
  | some p => rfl
  | none => exact folded_eq_iff.2 h

lemma mem_of_source {u t : Table} (h : r.source current u = some t) :
    t ∈ current.tables ∧ sameName t.name (r.oldTable u.name) = true :=
  Schema.mem_of_table?_eq_some h

/-- A table that takes the place of another one has that one's new name. -/
lemma newTable_of_source (hfits : r.Fits current target) (hapart : TablesApart r.tables)
    {u t : Table} (hu : u ∈ target.tables) (h : r.source current u = some t) :
    sameName (r.newTable t.name) u.name = true := by
  obtain ⟨-, hname⟩ := mem_of_source h
  rcases r.oldTable_cases u.name with ⟨p, hp, hpu, hold⟩ | ⟨-, hold⟩
  · rw [hold] at hname
    rwa [newTable_of_mem hapart hp (Text.sameName_symm hname)]
  · rw [hold] at hname
    rcases r.newTable_cases t.name with ⟨p, hp, hpt, -⟩ | ⟨-, hnew⟩
    · have := (hfits.of_mem hp).2.2.1 u hu
      rw [Text.sameName_comm, sameName_congr_left hpt, hname] at this
      exact absurd this (by decide)
    · rwa [hnew]

/-- **A table takes the place of the old table that has its name after the renames.** -/
theorem source_eq_some_iff (hfits : r.Fits current target) (hapart : TablesApart r.tables)
    {u t : Table} (hu : u ∈ target.tables) :
    r.source current u = some t ↔
      t ∈ current.tables ∧ sameName (r.newTable t.name) u.name = true := by
  refine ⟨fun h => ⟨(mem_of_source h).1, newTable_of_source hfits hapart hu h⟩, ?_⟩
  rintro ⟨ht, hname⟩
  refine Schema.table?_eq_some_iff.2 ⟨ht, ?_⟩
  rcases r.newTable_cases t.name with ⟨p, hp, hpt, hnew⟩ | ⟨-, hnew⟩ <;> rw [hnew] at hname
  · rcases r.oldTable_cases u.name with ⟨q, hq, hqu, hold⟩ | ⟨hnone, -⟩
    · obtain rfl := hapart.eq_of_new hp hq (Text.sameName_trans hname (Text.sameName_symm hqu))
      rw [hold]
      exact Text.sameName_symm hpt
    · rw [hnone p hp] at hname
      exact absurd hname (by decide)
  · rcases r.oldTable_cases u.name with ⟨q, hq, hqu, -⟩ | ⟨-, hold⟩
    · have := (hfits.of_mem hq).2.2.2 t ht
      rw [sameName_congr_left hname, Text.sameName_comm, hqu] at this
      exact absurd this (by decide)
    · rwa [hold]

/-- The spelling of its new name does not matter to a renamed table. -/
lemma table_apply_sameName {α : Type} (v : View α) (r : Renames) (t : Table) {m n : String}
    (h : sameName m n = true) : v.table (r.apply t m) = v.table (r.apply t n) := by
  simp only [View.table_apply, r.newColumn_congr h]

/-- Before the changes, a table whose place is taken is there under the name of the table that takes it. -/
lemma of_applyAll_of_source {α : Type} {v : View α} (hfits : r.Fits current target)
    (hapart : TablesApart r.tables) {u t : Table} (hu : u ∈ target.tables)
    (h : r.source current u = some t) :
    Catalog.of v (r.applyAll current.tables) (folded u.name) = some (v.table (r.apply t u.name)) := by
  have hname := newTable_of_source hfits hapart hu h
  exact (of_applyAll_eq_some_iff current.distinct hfits.tablesFit hapart).2
    ⟨t, (mem_of_source h).1, folded_eq_iff.2 hname, table_apply_sameName v r t hname⟩

/-- An old table whose place nobody takes keeps a name that is not in the new schema. -/
lemma name_of_no_source (hfits : r.Fits current target) (hapart : TablesApart r.tables) {t : Table}
    (ht : t ∈ current.tables) (h : ∀ u ∈ target.tables, r.source current u ≠ some t) :
    r.newTable t.name = t.name ∧ ∀ u ∈ target.tables, sameName t.name u.name = false := by
  have hne : ∀ u ∈ target.tables, ¬ sameName (r.newTable t.name) u.name = true :=
    fun u hu hname => h u hu ((source_eq_some_iff hfits hapart hu).2 ⟨ht, hname⟩)
  rcases r.newTable_cases t.name with ⟨p, hp, -, hnew⟩ | ⟨-, hnew⟩
  · obtain ⟨u, hu, hup⟩ := (hfits.of_mem hp).2.1
    exact absurd (by rw [hnew]; exact Text.sameName_symm hup) (hne u hu)
  · rw [hnew] at hne
    exact ⟨hnew, fun u hu => by simpa using hne u hu⟩

/-- No old table ends up under the name of a new table. -/
lemma newTable_ne_of_no_source (hfits : r.Fits current target) (hapart : TablesApart r.tables)
    {u : Table} (hu : u ∈ target.tables) (h : r.source current u = none) :
    ∀ t ∈ current.tables, folded (r.newTable t.name) ≠ folded u.name := by
  intro t ht heq
  rw [(source_eq_some_iff hfits hapart hu).2 ⟨ht, folded_eq_iff.1 heq⟩] at h
  exact absurd h (by simp)

/-! ## The columns that are renamed -/

lemma Fits.of_mem_columns (h : r.Fits current target) {c : ColumnRename} (hc : c ∈ r.columns) :
    ∃ u ∈ target.tables, sameName u.name c.table = true ∧
      u.hasColumn c.new = true ∧ u.hasColumn c.old = false ∧
      ∃ t, r.source current u = some t ∧ t.hasColumn c.old = true ∧ t.hasColumn c.new = false := by
  have := h.columns c hc
  unfold columnHolds at this
  split at this
  · rename_i before after hbefore hafter
    obtain ⟨hu, hname⟩ := Schema.mem_of_table?_eq_some hafter
    obtain ⟨ht, hold⟩ := Schema.mem_of_table?_eq_some hbefore
    simp only [Bool.and_eq_true, Bool.not_eq_true'] at this
    obtain ⟨⟨⟨h1, h2⟩, h3⟩, h4⟩ := this
    refine ⟨after, hu, hname, h3, h4, before, Schema.table?_eq_some_iff.2 ⟨ht, ?_⟩, h1, h2⟩
    rw [← folded_eq_iff] at hold ⊢
    rw [hold, folded_oldTable_congr r hname]
  · exact absurd this (by decide)

lemma Fits.columnsFit (h : r.Fits current target) (hapart : TablesApart r.tables) :
    ColumnsFit current.tables r := by
  intro c hc
  obtain ⟨u, hu, hname, -, -, t, ht, hold, hnew⟩ := h.of_mem_columns hc
  exact ⟨t, (mem_of_source ht).1,
    Text.sameName_trans (newTable_of_source h hapart hu ht) hname, hold, hnew⟩

/-- A table that is new has no renamed columns. -/
lemma columnsOf_of_no_source (h : r.Fits current target) {u : Table} (hu : u ∈ target.tables)
    (hnone : r.source current u = none) : r.columnsOf u.name = [] := by
  rw [columnsOf, List.map_eq_nil_iff, List.filter_eq_nil_iff]
  intro c hc hcu
  obtain ⟨w, hw, hwc, -, -, t, ht, -⟩ := h.of_mem_columns hc
  have hwu : w = u :=
    DistinctNames.eq_of_sameName target.distinct hw hu (Text.sameName_trans hwc hcu)
  rw [hwu, hnone] at ht
  exact absurd ht (by simp)

/-- The column renames table by table, in the order of the new schema and under its spelling of the
tables. -/
def inOrder (r : Renames) (target : Schema) : Renames where
  tables := r.tables
  columns := target.tables.flatMap fun u => (r.columnsOf u.name).map fun p => ⟨u.name, p.1, p.2⟩

lemma mem_columnsOf {table : String} {p : String × String} :
    p ∈ r.columnsOf table ↔
      ∃ c ∈ r.columns, sameName c.table table = true ∧ (c.old, c.new) = p := by
  simp [columnsOf, and_assoc]

lemma mem_inOrder {c : ColumnRename} :
    c ∈ (r.inOrder target).columns ↔ ∃ u ∈ target.tables, c.table = u.name ∧
      ∃ d ∈ r.columns, sameName d.table u.name = true ∧ d.old = c.old ∧ d.new = c.new := by
  simp only [inOrder, List.mem_flatMap, List.mem_map, mem_columnsOf]
  constructor
  · rintro ⟨u, hu, -, ⟨d, hd, hdu, rfl⟩, rfl⟩
    exact ⟨u, hu, rfl, d, hd, hdu, rfl, rfl⟩
  · rintro ⟨u, hu, hcu, d, hd, hdu, hold, hnew⟩
    exact ⟨u, hu, _, ⟨d, hd, hdu, rfl⟩, by rw [← hcu, hold, hnew]⟩

/-- Of the renames in order, those of one table are the renames of that table. -/
lemma filter_inOrder {u : Table} (hu : u ∈ target.tables) {table : String}
    (hname : sameName u.name table = true) :
    (r.inOrder target).columns.filter (fun c => sameName c.table table)
      = (r.columnsOf u.name).map fun p => ⟨u.name, p.1, p.2⟩ := by
  have hkey : ∀ c : ColumnRename, sameName c.table table = (folded c.table == folded u.name) := by
    intro c
    rw [← sameName_congr_right hname, Bool.eq_iff_iff, beq_iff_eq, folded_eq_iff]
  simp only [hkey, inOrder]
  refine DistinctNames.filter_flatMap target.distinct (fun c : ColumnRename => folded c.table)
    (fun t _ c hc => ?_) hu
  obtain ⟨p, -, rfl⟩ := List.mem_map.1 hc
  rfl

/-- **The order of the column renames does not matter to names.** -/
theorem newColumn_inOrder (h : r.Fits current target) (table x : String) :
    (r.inOrder target).newColumn table x = r.newColumn table x := by
  have hfind : ∀ l : List ColumnRename,
      l.find? (fun c => sameName c.table table && sameName c.old x)
        = (l.filter fun c => sameName c.table table).find? fun c => sameName c.old x := by
    intro l
    simp [List.find?_filter]
  by_cases hu : ∃ u ∈ target.tables, sameName u.name table = true
  · obtain ⟨u, hu, hname⟩ := hu
    have hsame : ∀ c : ColumnRename, sameName c.table table = sameName c.table u.name :=
      fun c => (sameName_congr_right hname c.table).symm
    simp only [newColumn, hfind, filter_inOrder hu hname]
    simp only [hsame, columnsOf, List.map_map, List.find?_map, Function.comp_def]
    cases (r.columns.filter fun c => sameName c.table u.name).find? fun c => sameName c.old x <;> rfl
  · push Not at hu
    have hnone : ∀ c ∈ r.columns, ¬ sameName c.table table = true := fun c hc hct => by
      obtain ⟨u, hmem, hname, -⟩ := h.of_mem_columns hc
      exact hu u hmem (Text.sameName_trans hname hct)
    have hnone' : ∀ c ∈ (r.inOrder target).columns, ¬ sameName c.table table = true := fun c hc => by
      obtain ⟨u, hmem, hcu, -⟩ := mem_inOrder.1 hc
      rw [hcu]
      exact hu u hmem
    simp only [newColumn, hfind, List.filter_eq_nil_iff.2 hnone, List.filter_eq_nil_iff.2 hnone']

lemma apply_inOrder (h : r.Fits current target) (t : Table) (new : String) :
    (r.inOrder target).apply t new = r.apply t new := by
  have hcol : (r.inOrder target).newColumn = r.newColumn :=
    funext fun table => funext fun x => newColumn_inOrder h table x
  have htable : (r.inOrder target).newTable = r.newTable := rfl
  have href : (r.inOrder target).applyToReference = r.applyToReference := by
    funext k
    simp only [applyToReference, hcol, htable]
  have hcolumn : (r.inOrder target).applyToColumn = r.applyToColumn := by
    funext table c
    simp only [applyToColumn, hcol, href]
  have hindex : (r.inOrder target).applyToIndex = r.applyToIndex := by
    funext old table i
    simp only [applyToIndex, hcol]
  simp only [apply, hcol, hcolumn, hindex]

lemma applyAll_inOrder (h : r.Fits current target) :
    (r.inOrder target).applyAll current.tables = r.applyAll current.tables :=
  List.map_congr_left fun t _ => apply_inOrder h t _

lemma columnsFit_inOrder (h : r.Fits current target) (hapart : TablesApart r.tables) :
    ColumnsFit current.tables (r.inOrder target) := by
  intro c hc
  obtain ⟨u, hu, hcu, d, hd, hdu, hold, hnew⟩ := mem_inOrder.1 hc
  obtain ⟨t, ht, htd, h1, h2⟩ := h.columnsFit hapart d hd
  exact ⟨t, ht, by rw [hcu]; exact Text.sameName_trans htd hdu, hold ▸ h1, hnew ▸ h2⟩

/-- Renames that share no names share none in order. -/
lemma columnsApart_inOrder (h : ColumnsApart r.columns) :
    ColumnsApart (r.inOrder target).columns := by
  refine List.pairwise_flatMap.2 ⟨fun u _ => ?_, target.distinct.imp fun {u w} huw c hc d hd hcd => ?_⟩
  · rw [columnsOf, List.map_map, List.pairwise_map]
    refine (List.Pairwise.filter _ h).imp_of_mem fun {c d} hc hd hcd _ => hcd ?_
    exact Text.sameName_trans (List.mem_filter.1 hc).2 (Text.sameName_symm (List.mem_filter.1 hd).2)
  · obtain ⟨p, -, rfl⟩ := List.mem_map.1 hc
    obtain ⟨q, -, rfl⟩ := List.mem_map.1 hd
    rw [huw] at hcd
    exact absurd hcd (by decide)

/-- The renames of a migration, run on the old schema, rename it as a whole. -/
theorem rename_run_iff {α : Type} {v : View α} {c : Catalog α} (h : r.Fits current target) :
    (((Catalog.of v current.tables).renameTables r.tables).bind
        (·.renameColumns (r.inOrder target).columns)) = some c ↔
      TablesApart r.tables ∧ ColumnsApart (r.inOrder target).columns ∧
        c = Catalog.of v (r.applyAll current.tables) := by
  simp only [Option.bind_eq_some_iff, renameTables_of_iff current.distinct h.tablesFit]
  constructor
  · rintro ⟨-, ⟨hapart, rfl⟩, hcols⟩
    have := (renameColumns_of_iff (r := r.inOrder target) current.distinct h.tablesFit hapart
      (columnsFit_inOrder h hapart)).1 hcols
    exact ⟨hapart, this.1, by rw [this.2, applyAll_inOrder h]⟩
  · rintro ⟨hapart, hcols, rfl⟩
    refine ⟨_, ⟨hapart, rfl⟩, (renameColumns_of_iff (r := r.inOrder target) current.distinct
      h.tablesFit hapart (columnsFit_inOrder h hapart)).2 ⟨hcols, ?_⟩⟩
    rw [applyAll_inOrder h]

end Renames

/-! ## Tables that nobody notices -/

/-- A table of the old schema that is neither kept nor dropped: no table takes its place, but it shares
its small form with one whose place is taken. -/
def Overlooked (current target : Schema) (r : Renames) (t : Table) : Prop :=
  t ∈ current.tables ∧ (∀ u ∈ target.tables, r.source current u ≠ some t) ∧
    ∃ u ∈ target.tables, ∃ s, r.source current u = some s ∧
      Text.toLowercase s.name = Text.toLowercase t.name

/-- Schemas whose table names have different small forms have no such table. -/
lemma not_overlooked (hlower : current.tables.Pairwise fun a b =>
      Text.toLowercase a.name ≠ Text.toLowercase b.name) (t : Table) :
    ¬ Overlooked current target r t := by
  rintro ⟨ht, hnone, u, hu, s, hs, hst⟩
  have : s = t := eq_of_pairwise_not
    (R := fun a b : Table => Text.toLowercase a.name = Text.toLowercase b.name)
    (fun _ _ h => h.symm) hlower (Renames.mem_of_source hs).1 ht hst
  exact hnone u hu (this ▸ hs)

end SchemaCompiler

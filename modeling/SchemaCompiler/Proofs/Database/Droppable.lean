import SchemaCompiler.Proofs.Database.Indexes
import SchemaCompiler.Proofs.Database.Standing
import SchemaCompiler.Proofs.Schema.Validity
import SchemaCompiler.Proofs.Sql.RawText

/-!
# What SQLite lets go of

SQLite drops a column in place if nothing else hangs on it: it is no key, not unique and no foreign key, and
no index and no constraint of its table names it.  Here this is a property of a database, and it is compared
with a property of two declared tables, the old one with its renames and the new one that takes its place.

The database is that of the moment at which the column is dropped.  The column belongs to one of the tables
only, so that what both have in common does not list it: their constraints, and the indexes in which they
agree.  What is left is whether the column refers to something, and the raw text, which may name a column
before it is there and after it is gone.

* `Database.Droppable` — what SQLite demands of a column that is dropped.
* `Removable` — the column refers to nothing, and no text that stays names it.
* `AtDrop` — the database at the moment at which a column is dropped.
* **`AtDrop.droppable_iff`** — at that moment what can be dropped is what is removable.
-/

namespace SchemaCompiler

open Text (sameName folded folded_eq_iff folded_ne_iff sameName_congr_right)

/-! ## What can be dropped -/

/-- The table has a column on which nothing in the table itself hangs. -/
structure CatalogTable.Frees (t : CatalogTable Definition) (column : String) : Prop where
  present : t.hasColumn (folded column) = true
  notKey : ∀ x ∈ t.columns, x.name = folded column →
    ∀ autoincrement, .primaryKey autoincrement ∉ x.attributes.constraints
  notUnique : ∀ x ∈ t.columns, x.name = folded column → .unique ∉ x.attributes.constraints
  unreferring : ∀ x ∈ t.columns, x.name = folded column → x.targets = []
  unlisted : ∀ k ∈ t.constraints, folded column ∉ k.columns
  unchecked : ∀ text, .check text ∈ t.constraints → ¬ Sql.Mentions text column

/-- The index names no column of that name. -/
structure CatalogIndex.Frees (i : CatalogIndex) (column : String) : Prop where
  keys : .column (folded column) ∉ i.terms
  expressions : ∀ text, .expression text ∈ i.terms → ¬ Sql.Mentions text column
  condition : ∀ text ∈ i.condition, ¬ Sql.Mentions text column

/-- **SQLite can drop the column.** -/
structure Database.Droppable (db : Database) (table column : String) : Prop where
  declared : ∃ t, db.tables (folded table) = some t ∧ t.Frees column
  indexes : ∀ n i, db.indexes n = some i → i.owner = folded table → i.Frees column

/-- The raw text of an index. -/
def Index.texts (i : Index) : List String :=
  (if i.kind = .expression then i.columns else []) ++ i.condition.toList

/-- **A column can go** from a table `u` that takes the place of `t`: it refers to nothing, and no check and
no index in which the two tables agree mentions it. -/
structure Removable (r : Renames) (t u : Table) (column : String) : Prop where
  unreferring : ∀ c ∈ u.columns, sameName c.name column = true → c.references = none
  unchecked : ∀ text, .check text ∈ u.constraints → ¬ Sql.Mentions text column
  unindexed : ∀ i ∈ t.indexes, r.applyToIndex t.name u.name i ∈ u.indexes →
    ∀ text ∈ i.texts, ¬ Sql.Mentions text column

namespace Renames

variable {r : Renames} {t : Table} {table : String}

/-- A table has what it had, under the name that the renames have given it. -/
lemma hasColumn_newColumn {x : String} (h : t.hasColumn x = true) :
    (r.apply t table).hasColumn (r.newColumn table x) = true := by
  obtain ⟨c, hc, hcx⟩ := Table.hasColumn_iff.1 h
  refine hasColumn_apply.2 ⟨c, hc, ?_⟩
  simp only [newColumn, sameName_congr_right hcx]
  cases r.columns.find? fun d => sameName d.table table && sameName d.old x with
  | some d => exact Text.sameName_refl _
  | none => exact hcx

/-- Constraints name columns that are there, also after renames. -/
lemma hasColumn_of_constraint (ht : t.Valid) {k : TableConstraint}
    (hk : k ∈ (r.apply t table).constraints) {x : String} (hx : x ∈ k.columns) :
    (r.apply t table).hasColumn x = true := by
  obtain ⟨k, hk', rfl⟩ := List.mem_map.1 hk
  have hcolumns : (k.mapColumns (r.newColumn table)).columns = k.columns.map (r.newColumn table) := by
    cases k <;> rfl
  rw [hcolumns] at hx
  obtain ⟨x, hx', rfl⟩ := List.mem_map.1 hx
  exact hasColumn_newColumn (ht.constrained k hk' x hx')

/-- The raw text of an index is left alone by renames. -/
lemma mem_texts_iff {i : Index} {text : String} : text ∈ i.texts ↔
    .expression text ∈ (r.heldIndex table i).terms ∨ text ∈ (r.heldIndex table i).condition := by
  by_cases hkind : i.kind = .expression <;> simp [Index.texts, heldIndex, hkind]

end Renames

/-- The checks of a table are kept as they are written. -/
lemma check_mem_map_iff {ks : List TableConstraint} {f : String → String} {text : String} :
    .check text ∈ ks.map (·.mapColumns f) ↔ .check text ∈ ks := by
  rw [List.mem_map]
  refine ⟨?_, fun hk => ⟨_, hk, rfl⟩⟩
  rintro ⟨k, hk, hcheck⟩
  cases k <;> simp only [TableConstraint.mapColumns, TableConstraint.check.injEq, reduceCtorEq] at hcheck
  rwa [← hcheck]

section Outlines

variable {c : Column} {t : Table} {x : CatalogColumn Definition}

/-- A column that is no key and not unique is defined as such. -/
lemma constraints_of_plain (hkey : c.primaryKey = false) (hunique : c.unique = false)
    (hx : x.outline = (defined.column t c).outline) :
    (∀ autoincrement, .primaryKey autoincrement ∉ x.attributes.constraints) ∧
      .unique ∉ x.attributes.constraints := by
  have hsame := congrArg CatalogColumn.attributes hx
  change x.attributes = (defined.column t c).attributes at hsame
  have hkinds : ∀ k ∈ (c.toDef t.keyConstraint?.isNone).constraints,
      (∀ autoincrement, k.unnamed ≠ .primaryKey autoincrement) ∧ k.unnamed ≠ .unique := by
    intro k hk
    cases k with
    | primaryKey autoincrement => simp [Column.toDef, hkey] at hk
    | unique => simp [Column.toDef, hunique] at hk
    | _ => simp [Sql.ColumnConstraint.unnamed]
  rw [hsame]
  refine ⟨fun autoincrement hmem => ?_, fun hmem => ?_⟩ <;> obtain ⟨k, hk, heq⟩ := List.mem_map.1 hmem
  · exact (hkinds k hk).1 autoincrement heq
  · exact (hkinds k hk).2 heq

/-- A column is a foreign key as it is declared. -/
lemma targets_eq_nil_iff (hx : x.outline = (defined.column t c).outline) :
    x.targets = [] ↔ c.references = none := by
  have hsame := congrArg CatalogColumn.targets hx
  simp only [CatalogColumn.outline, View.column, List.map_map] at hsame
  rw [← List.map_eq_nil_iff (f := fun _ => (("", "") : String × String)), hsame, List.map_eq_nil_iff]
  cases c.references <;> simp

end Outlines

/-! ## At the moment of the drop -/

/-- **The database when a column is dropped** from a table `u` that takes the place of `t`.  The column
belongs to one of the two tables only, and of the indexes those are there in which the tables agree. -/
structure AtDrop (r : Renames) (t u : Table) (c : Column) (db : Database) : Prop where
  plain : c.primaryKey = false ∧ c.unique = false
  only : c ∈ u.columns ∧ (r.apply t u.name).hasColumn c.name = false ∨
    u.hasColumn c.name = false ∧ c.references = none
  table : ∃ e, db.tables (folded u.name) = some e ∧ e.hasColumn (folded c.name) = true ∧
    e.constraints = u.constraints.map (·.mapColumns folded) ∧
    ∀ x ∈ e.columns, x.name = folded c.name → ∃ w, x.outline = (defined.column w c).outline
  kept : ∀ i ∈ t.indexes, r.applyToIndex t.name u.name i ∈ u.indexes →
    db.indexes (folded i.name) = some (r.heldIndex u.name i)
  others : ∀ n x, db.indexes n = some x → x.owner = folded u.name →
    ∃ i ∈ t.indexes, r.applyToIndex t.name u.name i ∈ u.indexes ∧ x = r.heldIndex u.name i

namespace AtDrop

variable {r : Renames} {t u : Table} {c : Column} {db : Database} (h : AtDrop r t u c db)

include h

/-- What both tables have is another column. -/
lemma ne_of_hasColumn {x : String} (hold : (r.apply t u.name).hasColumn x = true)
    (hnew : u.hasColumn x = true) : folded c.name ≠ folded x := by
  intro heq
  rcases h.only with ⟨-, hnone⟩ | ⟨hnone, -⟩
  · rw [← Table.hasColumn_congr _ (folded_eq_iff.1 heq), hnone] at hold
    exact absurd hold (by decide)
  · rw [← Table.hasColumn_congr _ (folded_eq_iff.1 heq), hnone] at hnew
    exact absurd hnew (by decide)

/-- The column is no foreign key exactly if the new table has none of its name. -/
lemma references_eq_none_iff (hu : u.Valid) :
    c.references = none ↔ ∀ d ∈ u.columns, sameName d.name c.name = true → d.references = none := by
  rcases h.only with ⟨hc, -⟩ | ⟨hnone, href⟩
  · refine ⟨fun href d hd hdc => ?_, fun hall => hall c hc (Text.sameName_refl _)⟩
    obtain rfl : d = c := eq_of_pairwise_not (R := fun a b : Column => sameName a.name b.name = true)
      (fun _ _ => Text.sameName_symm) (hu.columns.imp fun h => by simp [h]) hd hc hdc
    exact href
  · refine iff_of_true href fun d hd hdc => ?_
    rw [Table.hasColumn_eq_false_iff.1 hnone d hd] at hdc
    exact absurd hdc (by decide)

/-- No constraint in which the tables agree lists the column. -/
lemma not_listed (ht : t.Valid) (hu : u.Valid) (hagree : (r.apply t u.name).constraints = u.constraints)
    {k : TableConstraint} (hk : k ∈ u.constraints.map (·.mapColumns folded)) :
    folded c.name ∉ k.columns := by
  intro hlisted
  obtain ⟨k, hk', rfl⟩ := List.mem_map.1 hk
  have hmap : (k.mapColumns folded).columns = k.columns.map folded := by cases k <;> rfl
  rw [hmap] at hlisted
  obtain ⟨x, hx, hxc⟩ := List.mem_map.1 hlisted
  exact h.ne_of_hasColumn (Renames.hasColumn_of_constraint ht (hagree ▸ hk') hx)
    (hu.constrained k hk' x hx) hxc.symm

/-- No index that is there has the column as a key. -/
lemma column_not_mem_heldIndex (ht : t.Valid) (hu : u.Valid) {i : Index} (hi : i ∈ t.indexes)
    (hmem : r.applyToIndex t.name u.name i ∈ u.indexes) :
    .column (folded c.name) ∉ (r.heldIndex u.name i).terms := by
  intro hterm
  by_cases hkind : i.kind = .expression
  · simp [Renames.heldIndex, hkind] at hterm
  · simp only [Renames.heldIndex, hkind, if_false, List.mem_map, Sql.IndexTerm.column.injEq] at hterm
    obtain ⟨x, hx, hxc⟩ := hterm
    have hold := ht.indexed i hi x (by simpa [Index.namedColumns, hkind] using hx)
    have hnew := hu.indexed _ hmem (r.newColumn u.name x) (by
      simpa [Index.namedColumns, Renames.applyToIndex, hkind, ← List.map_append] using
        List.mem_map_of_mem (f := r.newColumn u.name) hx)
    exact h.ne_of_hasColumn (Renames.hasColumn_newColumn hold) hnew hxc.symm

/-- **What can be dropped is what can go.** -/
theorem droppable_iff (ht : t.Valid) (hu : u.Valid)
    (hagree : (r.apply t u.name).constraints = u.constraints) :
    db.Droppable u.name c.name ↔ Removable r t u c.name := by
  obtain ⟨e, he, hpresent, hconstraints, hcolumns⟩ := h.table
  have hchecks : ∀ text, .check text ∈ e.constraints ↔ .check text ∈ u.constraints := fun text => by
    rw [hconstraints, check_mem_map_iff]
  have htargets : ∀ x ∈ e.columns, x.name = folded c.name → (x.targets = [] ↔ c.references = none) :=
    fun x hx hxc => targets_eq_nil_iff (hcolumns x hx hxc).choose_spec
  have hplain : ∀ x ∈ e.columns, x.name = folded c.name →
      (∀ autoincrement, .primaryKey autoincrement ∉ x.attributes.constraints) ∧
        .unique ∉ x.attributes.constraints :=
    fun x hx hxc => constraints_of_plain h.plain.1 h.plain.2 (hcolumns x hx hxc).choose_spec
  constructor
  · intro hdrop
    obtain ⟨e', he', hfree⟩ := hdrop.declared
    obtain rfl := Option.some.inj (he.symm.trans he')
    obtain ⟨x, hx, hxc⟩ := CatalogTable.hasColumn_iff.1 hpresent
    refine ⟨(h.references_eq_none_iff hu).1 ((htargets x hx hxc).1 (hfree.unreferring x hx hxc)),
      fun text htext => hfree.unchecked text ((hchecks text).2 htext), fun i hi hmem text htext => ?_⟩
    have hindex := hdrop.indexes _ _ (h.kept i hi hmem) rfl
    rcases (Renames.mem_texts_iff (r := r)).1 htext with hterm | hcondition
    · exact hindex.expressions text hterm
    · exact hindex.condition text hcondition
  · intro hgo
    have href := (h.references_eq_none_iff hu).2 hgo.unreferring
    refine ⟨⟨e, he, ?_⟩, fun n x hx howner => ?_⟩
    · exact
        { present := hpresent
          notKey := fun x hx hxc => (hplain x hx hxc).1
          notUnique := fun x hx hxc => (hplain x hx hxc).2
          unreferring := fun x hx hxc => (htargets x hx hxc).2 href
          unlisted := fun k hk => h.not_listed ht hu hagree (hconstraints ▸ hk)
          unchecked := fun text htext => hgo.unchecked text ((hchecks text).1 htext) }
    · obtain ⟨i, hi, hmem, rfl⟩ := h.others n x hx howner
      exact
        { keys := h.column_not_mem_heldIndex ht hu hi hmem
          expressions := fun text hterm =>
            hgo.unindexed i hi hmem text (Renames.mem_texts_iff.2 (Or.inl hterm))
          condition := fun text hcondition =>
            hgo.unindexed i hi hmem text (Renames.mem_texts_iff.2 (Or.inr hcondition)) }

end AtDrop

end SchemaCompiler

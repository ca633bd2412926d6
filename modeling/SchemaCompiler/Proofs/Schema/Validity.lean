import SchemaCompiler.Proofs.Catalog.Renaming
import SchemaCompiler.Schema.Validation

/-!
# What validation guarantees

`Schema.errors` collects faults for a reader; a proof wants to know what a schema without faults is like.
This file reads the empty list of errors as a list of facts, once, so that no theorem about migrations
has to look at the checks again.

* `Table.Valid` — what holds of a table by itself: columns have different names, constraints and indexes
  name columns that are there, indexes know their table.
* `Schema.Valid` — what holds between tables: foreign keys end at a column, no two indexes share a name.
* `Schema.valid_of_errors` — a schema without errors is valid in this sense.
* `Schema.LowercaseDistinct` — what is not guaranteed: the small forms of tables are different, too.

Columns and indexes are told apart by their small forms, and names with different small forms are
different names (`Text.sameName_eq_false_of_toLowercase`).
-/

namespace SchemaCompiler

open Text (sameName)

lemma Text.sameName_eq_false_of_toLowercase {a b : String} (h : toLowercase a ≠ toLowercase b) :
    sameName a b = false :=
  Bool.eq_false_iff.2 fun hab => h (toLowercase_eq_of_sameName hab)

/-! ## One table -/

/-- What holds of a table without faults. -/
structure Table.Valid (t : Table) : Prop where
  columns : t.columns.Pairwise fun a b => sameName a.name b.name = false
  constrained : ∀ k ∈ t.constraints, ∀ x ∈ k.columns, t.hasColumn x = true
  owned : ∀ i ∈ t.indexes, i.table = t.name
  indexed : ∀ i ∈ t.indexes, ∀ x ∈ i.namedColumns, t.hasColumn x = true
  /-- An expression index carries nothing. -/
  uncarried : ∀ i ∈ t.indexes, i.kind = .expression → i.carried = []
  indexes : t.indexes.Pairwise fun i j => Text.toLowercase i.name ≠ Text.toLowercase j.name

/-- Of columns with different names a look-up finds the one with the name. -/
lemma Table.column?_of_mem {t : Table} (h : t.columns.Pairwise fun a b => sameName a.name b.name = false)
    {c : Column} (hc : c ∈ t.columns) {name : String} (hname : sameName c.name name = true) :
    t.column? name = some c := by
  cases hfind : t.column? name with
  | none =>
      have := List.find?_eq_none.1 hfind c hc
      exact absurd hname this
  | some d =>
      have hd : d ∈ t.columns := List.mem_of_find?_eq_some hfind
      have hdname : sameName d.name name = true := by simpa using List.find?_some hfind
      have : d = c := eq_of_pairwise_not (R := fun a b : Column => sameName a.name b.name = true)
        (fun _ _ => Text.sameName_symm) (h.imp fun h => by simp [h]) hd hc
        (Text.sameName_trans hdname (Text.sameName_symm hname))
      rw [this]

namespace Table

lemma columns_of_columnErrors {table : String} {seen : List String} {cs : List Column}
    (h : columnErrors table seen cs = []) :
    (∀ c ∈ cs, Text.toLowercase c.name ∉ seen) ∧
      cs.Pairwise fun a b => sameName a.name b.name = false := by
  induction cs generalizing seen with
  | nil => simp
  | cons c rest ih =>
      simp only [columnErrors, List.append_eq_nil_iff] at h
      obtain ⟨⟨hseen, -⟩, hrest⟩ := h
      obtain ⟨hnot, hpair⟩ := ih hrest
      have hc : Text.toLowercase c.name ∉ seen := by simpa using hseen
      refine ⟨fun d hd => ?_, List.pairwise_cons.2 ⟨fun d hd => ?_, hpair⟩⟩
      · rcases List.mem_cons.1 hd with rfl | hd
        · exact hc
        · exact fun hmem => hnot d hd (List.mem_cons_of_mem _ hmem)
      · refine Text.sameName_eq_false_of_toLowercase fun heq => hnot d hd ?_
        rw [← heq]
        exact List.mem_cons_self

lemma hasColumn_of_constraintErrors {t : Table} {k : TableConstraint} (h : t.constraintErrors k = []) :
    ∀ x ∈ k.columns, t.hasColumn x = true := by
  intro x hx
  simp only [constraintErrors, List.append_eq_nil_iff, List.flatMap_eq_nil_iff] at h
  have := h.2 x hx
  rw [hasColumn, Option.isSome_iff_ne_none]
  intro hnone
  simp [constrainedColumnErrors, hnone] at this

lemma Index.carried_of_faults {i : Index} (h : i.faults = []) (hk : i.kind = .expression) :
    i.carried = [] := by
  by_contra hne
  simp [Index.faults, hk, hne] at h

lemma indexes_of_indexesErrors {t : Table} {seen : List String} {is : List Index}
    (h : t.indexesErrors seen is = []) :
    (∀ i ∈ is, Text.toLowercase i.name ∉ seen ∧ t.indexErrors i = []) ∧
      is.Pairwise fun i j => Text.toLowercase i.name ≠ Text.toLowercase j.name := by
  induction is generalizing seen with
  | nil => simp
  | cons i rest ih =>
      simp only [indexesErrors, List.append_eq_nil_iff] at h
      obtain ⟨⟨hseen, hi⟩, hrest⟩ := h
      obtain ⟨hall, hpair⟩ := ih hrest
      have hkey : Text.toLowercase i.name ∉ seen := by simpa using hseen
      refine ⟨fun j hj => ?_, List.pairwise_cons.2 ⟨fun j hj heq => ?_, hpair⟩⟩
      · rcases List.mem_cons.1 hj with rfl | hj
        · exact ⟨hkey, hi⟩
        · exact ⟨fun hmem => (hall j hj).1 (List.mem_cons_of_mem _ hmem), (hall j hj).2⟩
      · exact (hall j hj).1 (heq ▸ List.mem_cons_self)

/-- A table without errors is valid. -/
theorem valid_of_errors {t : Table} (h : t.errors = []) : t.Valid := by
  simp only [errors, List.append_eq_nil_iff, List.flatMap_eq_nil_iff] at h
  obtain ⟨⟨⟨hcols, -⟩, hcons⟩, hidx⟩ := h
  obtain ⟨hall, hpair⟩ := indexes_of_indexesErrors hidx
  have hindex : ∀ i ∈ t.indexes, i.table = t.name ∧ i.faults = [] ∧
      ∀ x ∈ i.namedColumns, t.hasColumn x = true := by
    intro i hi
    have := (hall i hi).2
    simp only [indexErrors, List.append_eq_nil_iff, List.map_eq_nil_iff,
      List.filter_eq_nil_iff] at this
    obtain ⟨⟨htable, hfaults⟩, hnamed⟩ := this
    exact ⟨by simpa using htable, hfaults, fun x hx => by simpa using hnamed x hx⟩
  exact
    { columns := (columns_of_columnErrors hcols).2
      constrained := fun k hk => hasColumn_of_constraintErrors (hcons k hk)
      owned := fun i hi => (hindex i hi).1
      indexed := fun i hi => (hindex i hi).2.2
      uncarried := fun i hi => Index.carried_of_faults (hindex i hi).2.1
      indexes := hpair }

end Table

/-! ## The tables together -/

/-- What holds of a schema without faults. -/
structure Schema.Valid (s : Schema) : Prop where
  tables : ∀ t ∈ s.tables, t.Valid
  /-- Every foreign key ends at a column of a table. -/
  foreign : ∀ t ∈ s.tables, ∀ c ∈ t.columns, ∀ k, c.references = some k →
    ∃ u ∈ s.tables, sameName u.name k.table = true ∧ u.hasColumn k.column = true
  /-- No two tables have indexes of one name. -/
  indexes : s.tables.Pairwise fun t u => ∀ i ∈ t.indexes, ∀ j ∈ u.indexes,
    Text.toLowercase i.name ≠ Text.toLowercase j.name

namespace Schema

variable {s : Schema}

/-! ### The owners of index names

An index name belongs to the table that was the first to declare it.  Owners never change, and the check
passes where every table owns the names that it declares. -/

lemma lookup_claimIndexes {table : String} {owners : IndexOwners} {is : List Index} {key o : String} :
    (owners.lookup key = some o → (claimIndexes table owners is).1.lookup key = some o) ∧
      ((claimIndexes table owners is).1.lookup key = some o →
        owners.lookup key = some o ∨ o = table) := by
  induction is generalizing owners with
  | nil => exact ⟨id, Or.inl⟩
  | cons i rest ih =>
      cases hi : owners.lookup (Text.toLowercase i.name) with
      | some owner =>
          simp only [claimIndexes, hi]
          exact ih
      | none =>
          simp only [claimIndexes, hi]
          by_cases hkey : key = Text.toLowercase i.name
          · subst hkey
            have := @ih ((Text.toLowercase i.name, table) :: owners)
            simp only [List.lookup_cons_self, Option.some.injEq] at this
            exact ⟨fun h => by simp [hi] at h, fun h => (this.2 h).elim (fun h => Or.inr h.symm) Or.inr⟩
          · have := @ih ((Text.toLowercase i.name, table) :: owners)
            rwa [List.lookup_cons, beq_false_of_ne hkey] at this

lemma lookup_claimIndexes_of_mem (table : String) (owners : IndexOwners) {is : List Index} {i : Index}
    (hi : i ∈ is) : ∃ o, (claimIndexes table owners is).1.lookup (Text.toLowercase i.name) = some o := by
  induction is generalizing owners with
  | nil => cases hi
  | cons j rest ih =>
      cases hj : owners.lookup (Text.toLowercase j.name) with
      | some owner =>
          simp only [claimIndexes, hj]
          rcases List.mem_cons.1 hi with rfl | hi
          · exact ⟨owner, lookup_claimIndexes.1 hj⟩
          · exact ih _ hi
      | none =>
          simp only [claimIndexes, hj]
          rcases List.mem_cons.1 hi with rfl | hi
          · exact ⟨table, lookup_claimIndexes.1 (by simp)⟩
          · exact ih _ hi

/-- Where no claim is refused, a name that had an owner had the claiming table for its owner. -/
lemma owner_of_claimIndexes {table : String} {owners : IndexOwners} {is : List Index}
    (h : (claimIndexes table owners is).2 = []) {i : Index} (hi : i ∈ is) {o : String}
    (ho : owners.lookup (Text.toLowercase i.name) = some o) : o = table := by
  induction is generalizing owners with
  | nil => cases hi
  | cons j rest ih =>
      cases hj : owners.lookup (Text.toLowercase j.name) with
      | some owner =>
          simp only [claimIndexes, hj] at h
          split_ifs at h with heq
          rcases List.mem_cons.1 hi with rfl | hi
          · rw [ho] at hj
            rw [Option.some.inj hj, heq]
          · exact ih h hi ho
      | none =>
          simp only [claimIndexes, hj] at h
          rcases List.mem_cons.1 hi with rfl | hi
          · simp [ho] at hj
          · refine ih h hi ?_
            rw [List.lookup_cons]
            split
            · rename_i heq
              simp only [beq_iff_eq] at heq
              simp [← heq, ho] at hj
            · exact ho

/-- The parts of the errors found at tables. -/
lemma tableErrors_cons_eq_nil {owners : IndexOwners} {t : Table} {rest : List Table}
    (h : s.tableErrors owners (t :: rest) = []) :
    t.errors = [] ∧ (claimIndexes t.name owners t.indexes).2 = [] ∧
      (∀ p ∈ t.foreignKeys, s.foreignKeyErrors t p.1 p.2 = []) ∧
      s.tableErrors (claimIndexes t.name owners t.indexes).1 rest = [] := by
  simp only [tableErrors, List.append_eq_nil_iff, List.flatMap_eq_nil_iff] at h
  exact ⟨h.1.1.1, h.1.1.2, h.1.2, h.2⟩

lemma owner_of_tableErrors {owners : IndexOwners} {tables : List Table}
    (h : s.tableErrors owners tables = []) {u : Table} (hu : u ∈ tables) {j : Index}
    (hj : j ∈ u.indexes) {o : String} (ho : owners.lookup (Text.toLowercase j.name) = some o) :
    o = u.name := by
  induction tables generalizing owners with
  | nil => cases hu
  | cons t rest ih =>
      obtain ⟨-, hclaim, -, hrest⟩ := tableErrors_cons_eq_nil h
      rcases List.mem_cons.1 hu with rfl | hu
      · exact owner_of_claimIndexes hclaim hj ho
      · exact ih hrest hu (lookup_claimIndexes.1 ho)

lemma indexes_of_tableErrors {owners : IndexOwners} {tables : List Table}
    (h : s.tableErrors owners tables = []) (hd : DistinctNames tables) :
    tables.Pairwise fun t u => ∀ i ∈ t.indexes, ∀ j ∈ u.indexes,
      Text.toLowercase i.name ≠ Text.toLowercase j.name := by
  induction tables generalizing owners with
  | nil => exact List.Pairwise.nil
  | cons t rest ih =>
      obtain ⟨-, hclaim, -, hrest⟩ := tableErrors_cons_eq_nil h
      rw [DistinctNames, List.pairwise_cons] at hd
      refine List.pairwise_cons.2 ⟨fun u hu i hi j hj heq => ?_, ih hrest hd.2⟩
      obtain ⟨o, ho⟩ := lookup_claimIndexes_of_mem t.name owners hi
      have ht : o = t.name :=
        (lookup_claimIndexes.2 ho).elim (owner_of_claimIndexes hclaim hi) id
      have hu' : o = u.name := owner_of_tableErrors hrest hu hj (heq ▸ ho)
      have := hd.1 u hu
      rw [← ht, ← hu', Text.sameName_refl] at this
      exact absurd this (by decide)

lemma mem_of_tableErrors {owners : IndexOwners} {tables : List Table}
    (h : s.tableErrors owners tables = []) {t : Table} (ht : t ∈ tables) :
    t.errors = [] ∧ ∀ p ∈ t.foreignKeys, s.foreignKeyErrors t p.1 p.2 = [] := by
  induction tables generalizing owners with
  | nil => cases ht
  | cons u rest ih =>
      obtain ⟨herrors, -, hforeign, hrest⟩ := tableErrors_cons_eq_nil h
      rcases List.mem_cons.1 ht with rfl | ht
      · exact ⟨herrors, hforeign⟩
      · exact ih hrest ht

lemma mem_of_table?_eq_some {name : String} {t : Table} (h : s.table? name = some t) :
    t ∈ s.tables ∧ sameName t.name name = true :=
  ⟨List.mem_of_find?_eq_some h, by simpa using List.find?_some h⟩

/-- A table is found by every spelling of its name. -/
lemma table?_eq_some_iff {name : String} {t : Table} :
    s.table? name = some t ↔ t ∈ s.tables ∧ sameName t.name name = true := by
  refine ⟨mem_of_table?_eq_some, fun ⟨ht, hname⟩ => ?_⟩
  cases hfind : s.table? name with
  | none => exact absurd hname (by simp [table?_eq_none_iff.1 hfind t ht])
  | some u =>
      obtain ⟨hu, huname⟩ := mem_of_table?_eq_some hfind
      rw [DistinctNames.eq_of_sameName s.distinct hu ht
        (Text.sameName_trans huname (Text.sameName_symm hname))]

lemma foreign_of_foreignKeyErrors {t : Table} {c : Column} {k : ForeignKey}
    (h : s.foreignKeyErrors t c k = []) :
    ∃ u ∈ s.tables, sameName u.name k.table = true ∧ u.hasColumn k.column = true := by
  cases hfind : s.table? k.table with
  | none => simp [foreignKeyErrors, hfind] at h
  | some u =>
      obtain ⟨hu, hname⟩ := mem_of_table?_eq_some hfind
      refine ⟨u, hu, hname, ?_⟩
      by_contra hcol
      rw [Bool.not_eq_true] at hcol
      simp [foreignKeyErrors, hfind, hcol] at h

/-- **A schema without errors is valid.** -/
theorem valid_of_errors (h : s.errors = []) : s.Valid := by
  have htables : s.tableErrors [] s.tables = [] := (List.append_eq_nil_iff.1 h).1
  refine
    { tables := fun t ht => Table.valid_of_errors (mem_of_tableErrors htables ht).1
      foreign := fun t ht c hc k hk => ?_
      indexes := indexes_of_tableErrors htables s.distinct }
  refine foreign_of_foreignKeyErrors (t := t) (c := c) ((mem_of_tableErrors htables ht).2 (c, k) ?_)
  exact List.mem_filterMap.2 ⟨c, hc, by simp [hk]⟩

/-! ### Small forms -/

/-- No two tables have one name after conversion to small letters. -/
def LowercaseDistinct (s : Schema) : Prop :=
  s.tables.Pairwise fun t u => Text.toLowercase t.name ≠ Text.toLowercase u.name

lemma LowercaseDistinct.eq (h : s.LowercaseDistinct) {t u : Table} (ht : t ∈ s.tables) (hu : u ∈ s.tables)
    (hname : Text.toLowercase t.name = Text.toLowercase u.name) : t = u :=
  eq_of_pairwise_not (R := fun a b : Table => Text.toLowercase a.name = Text.toLowercase b.name)
    (fun _ _ => Eq.symm) h ht hu hname

end Schema

end SchemaCompiler

import SchemaCompiler.Proofs.Schema.Sameness

/-!
# Every table is accounted for

Where no renames are named, the comparison has only the names of tables to go by.  A table that the new
schema does not have is to be dropped, one that the old schema does not have is to be created, and the others
are compared in pairs.

For the new schema this is so in every case.  The old schema is different, because the comparison looks for
tables under one notion of sameness and remembers what it has found under another: tables are found by
`sameName`, which knows the case of ASCII letters only, and remembered by their small forms.  Both capital
and small letters of all alphabets have one small form.  Where a table is gone and one of the same small form
is still there, the comparison takes the first for the second and says nothing of it.

* `PairedByName` — the pairs that are to be compared.
* `SchemaDiff.Compares` — a difference consists of what the comparison of given pairs finds.
* `SchemaDiff.Partitions` — every table is created, dropped, or in one pair.
* `GoneApart` — no table that is gone has the small form of one that is still there.
* **`SchemaDiff.partitions_between_iff`** — the comparison accounts for every table exactly then.
-/

namespace SchemaCompiler

open Text (sameName)
open TableChange (needsRebuild)

variable {current target : Schema}

/-! ## Pairs of tables -/

/-- Pairs of an old and a new table of one name: every table of the new schema whose name the old schema has
is in one pair, in the order of the new schema, and no table of the old schema is in two. -/
structure PairedByName (current target : Schema) (pairs : List (Table × Table)) : Prop where
  new : pairs.map (·.2) = target.tables.filter fun u => (current.table? u.name).isSome
  old : ∀ p ∈ pairs, current.table? p.2.name = some p.1
  apart : DistinctNames (pairs.map (·.1))

/-- The pairs of two schemas. -/
def pairsByName (current target : Schema) : List (Table × Table) :=
  target.tables.filterMap fun u => (current.table? u.name).map (·, u)

lemma mem_pairsByName {p : Table × Table} :
    p ∈ pairsByName current target ↔ p.2 ∈ target.tables ∧ current.table? p.2.name = some p.1 := by
  simp only [pairsByName, List.mem_filterMap, Option.map_eq_some_iff]
  constructor
  · rintro ⟨u, hu, t, ht, rfl⟩
    exact ⟨hu, ht⟩
  · rintro ⟨hu, ht⟩
    exact ⟨p.2, hu, p.1, ht, rfl⟩

lemma pairedByName_pairsByName : PairedByName current target (pairsByName current target) where
  new := by
    rw [pairsByName, List.map_filterMap, ← List.filterMap_eq_filter]
    refine List.filterMap_congr fun u _ => ?_
    cases h : current.table? u.name <;> simp [Option.guard, h]
  old p hp := (mem_pairsByName.1 hp).2
  apart := by
    rw [pairsByName, List.map_filterMap]
    refine target.distinct.filterMap _ fun u w huw s hs t ht => ?_
    simp only [Option.map_map, Function.comp_def, Option.map_id'] at hs ht
    have hsu := (Schema.mem_of_table?_eq_some hs).2
    have htw := (Schema.mem_of_table?_eq_some ht).2
    rwa [Text.sameName_congr_left hsu, Text.sameName_congr_right htw]

/-! ## What the comparison finds at a pair -/

namespace SchemaDiff

/-- The old table of a pair as it is compared, which is under the new spelling of its name. -/
def comparedForm (p : Table × Table) : Table := ({} : Renames).apply p.1 p.2.name

/-- The changes and the indexes that a difference lists are those of the given pairs.  Indexes are compared
where the table is not rebuilt. -/
structure Compares (d : SchemaDiff) (pairs : List (Table × Table)) : Prop where
  changed : d.changed = pairs.filterMap fun p => TableChange.between (comparedForm p) p.2 []
  createdIndexes : d.createdIndexes =
    (pairs.filter fun p => !needsRebuild (comparedForm p) p.2).flatMap fun p =>
      indexesMissingFrom p.2 (comparedForm p)
  droppedIndexes : d.droppedIndexes =
    (pairs.filter fun p => !needsRebuild (comparedForm p) p.2).flatMap fun p =>
      indexesMissingFrom (comparedForm p) p.2

/-- Every table of two schemas is accounted for: what only the new schema has is created, what only the old
schema has is dropped, and the rest is compared in pairs. -/
structure Partitions (current target : Schema) (d : SchemaDiff) : Prop where
  created : d.created = target.tables.filter fun u => (current.table? u.name).isNone
  dropped : d.dropped = current.tables.filter fun t => (target.table? t.name).isNone
  compared : ∃ pairs, PairedByName current target pairs ∧ d.Compares pairs

/-- What is collected at pairs is collected along the new schema. -/
lemma flatMap_filter_pairsByName {β : Type} (q : Table × Table → Bool) (g : Table × Table → List β) :
    ((pairsByName current target).filter q).flatMap g = target.tables.flatMap fun u =>
      match current.table? u.name with
      | some t => if q (t, u) then g (t, u) else []
      | none => [] := by
  rw [pairsByName, List.filterMap_eq_flatMap_toList, List.filter_flatMap, List.flatMap_assoc]
  refine List.flatMap_congr fun u _ => ?_
  cases current.table? u.name with
  | none => rfl
  | some t => cases hq : q (t, u) <;> simp [hq]

/-- Without hints a table takes the place of the one that a look-up by its name finds. -/
lemma source_nil (u : Table) : ({} : Renames).source current u = current.table? u.name := rfl

variable (current target)

/-- **The comparison without hints compares the pairs.** -/
theorem compares_between : (between current target {}).Compares (pairsByName current target) where
  changed := by
    have hchanged : (between current target {}).changed
        = target.tables.filterMap fun u => (origin current {} u).change? := by
      simp only [between, List.filterMap_map, Function.comp_def]
      rfl
    rw [hchanged, pairsByName, List.filterMap_filterMap]
    refine List.filterMap_congr fun u _ => ?_
    rw [change?_origin, source_nil]
    cases current.table? u.name <;> rfl
  createdIndexes := by
    rw [createdIndexes_between, flatMap_filter_pairsByName]
    refine List.flatMap_congr fun u _ => ?_
    change (({} : Renames).fate current u).newIndexes u = _
    rw [Renames.fate, source_nil]
    cases current.table? u.name with
    | none => rfl
    | some t => cases h : needsRebuild (({} : Renames).apply t u.name) u <;>
        simp [comparedForm, h, Fate.newIndexes]
  droppedIndexes := by
    rw [droppedIndexes_between, flatMap_filter_pairsByName]
    refine List.flatMap_congr fun u _ => ?_
    change (({} : Renames).fate current u).goneIndexes u = _
    rw [Renames.fate, source_nil]
    cases current.table? u.name with
    | none => rfl
    | some t => cases h : needsRebuild (({} : Renames).apply t u.name) u <;>
        simp [comparedForm, h, Fate.goneIndexes]

end SchemaDiff

/-! ## Tables that are gone -/

/-- No table of the old schema that is gone has the small form of one that is still there. -/
def GoneApart (current target : Schema) : Prop :=
  ∀ s ∈ current.tables, ∀ t ∈ current.tables, (target.table? s.name).isSome = true →
    target.table? t.name = none → Text.toLowercase s.name ≠ Text.toLowercase t.name

namespace SchemaDiff

/-- The tables whose place is taken are those whose names the new schema has. -/
lemma exists_source_nil_iff {s : Table} (hs : s ∈ current.tables) :
    (∃ u ∈ target.tables, ({} : Renames).source current u = some s) ↔
      (target.table? s.name).isSome = true := by
  rw [Option.isSome_iff_exists]
  refine exists_congr fun u => ?_
  rw [Schema.table?_eq_some_iff, source_nil_eq_some_iff, Text.sameName_comm s.name]
  exact and_congr_right fun _ => and_iff_right hs

lemma mem_dropped_nil_iff {t : Table} :
    t ∈ (between current target {}).dropped ↔ t ∈ current.tables ∧ ∀ s ∈ current.tables,
      (target.table? s.name).isSome = true → Text.toLowercase s.name ≠ Text.toLowercase t.name := by
  rw [mem_dropped_between]
  refine and_congr_right fun _ => ⟨fun h s hs hkept => ?_, fun h u hu s hsource => ?_⟩
  · obtain ⟨u, hu, hsource⟩ := (exists_source_nil_iff hs).2 hkept
    exact h u hu s hsource
  · have hs := (Renames.mem_of_source hsource).1
    exact h s hs ((exists_source_nil_iff hs).1 ⟨u, hu, hsource⟩)

/-- The tables that are dropped are those that are gone, if these stand apart from the others. -/
lemma dropped_between_eq_iff :
    (between current target {}).dropped
        = current.tables.filter (fun t => (target.table? t.name).isNone) ↔
      GoneApart current target := by
  constructor
  · intro h s hs t ht hkept hgone
    have hmem : t ∈ (between current target {}).dropped := by
      rw [h, List.mem_filter, hgone]
      exact ⟨ht, rfl⟩
    exact (mem_dropped_nil_iff.1 hmem).2 s hs hkept
  · intro h
    have hdropped : (between current target {}).dropped
        = current.tables.filter fun t => decide (t ∈ (between current target {}).dropped) := by
      refine List.filter_congr fun t ht => ?_
      rw [Bool.eq_iff_iff, decide_eq_true_iff]
      exact ⟨fun hkeep => List.mem_filter.2 ⟨ht, hkeep⟩, fun hmem => (List.mem_filter.1 hmem).2⟩
    rw [hdropped]
    refine List.filter_congr fun t ht => ?_
    rw [Bool.eq_iff_iff, decide_eq_true_iff, mem_dropped_nil_iff, Option.isNone_iff_eq_none]
    constructor
    · rintro ⟨-, hall⟩
      by_contra hkept
      exact hall t ht (Option.isSome_iff_ne_none.2 hkept) rfl
    · exact fun hgone => ⟨ht, fun s hs hkept => h s hs t ht hkept hgone⟩

/-- **When every table is accounted for.**  For all schemas the comparison without hints creates what only the
new schema has, drops what only the old schema has, and compares the rest in pairs, exactly if no table that
is gone has the small form of a table that is still there. -/
theorem partitions_between_iff (current target : Schema) :
    Partitions current target (between current target {}) ↔ GoneApart current target := by
  refine ⟨fun h => dropped_between_eq_iff.1 h.dropped, fun h => ⟨?_, dropped_between_eq_iff.2 h,
    pairsByName current target, pairedByName_pairsByName, compares_between current target⟩⟩
  exact created_between current target {}

/-- Two tables whose names differ in the case of a letter with diaeresis. -/
def clinicSchema : Schema where
  tables := [
    { name := "Ärzte", columns := [(Column.ofType "id" .integer).asPrimaryKey] },
    { name := "ärzte", columns := [(Column.ofType "id" .integer).asPrimaryKey] }]
  relationships := []
  distinct := by decide +kernel

/-- The second of the two tables. -/
def practiceSchema : Schema where
  tables := [{ name := "ärzte", columns := [(Column.ofType "id" .integer).asPrimaryKey] }]
  relationships := []
  distinct := by decide +kernel

/-- The first table is gone, and the comparison says nothing of it. -/
theorem clinicSchema_not_partitioned : clinicSchema.errors = [] ∧ practiceSchema.errors = [] ∧
    practiceSchema.table? "Ärzte" = none ∧ (between clinicSchema practiceSchema {}).isEmpty = true ∧
    ¬ Partitions clinicSchema practiceSchema (between clinicSchema practiceSchema {}) := by
  have hnone : (between clinicSchema practiceSchema {}).dropped = [] := by decide +kernel
  refine ⟨by decide +kernel, by decide +kernel, by decide +kernel, by decide +kernel, fun h => ?_⟩
  have hone : clinicSchema.tables.filter (fun t => (practiceSchema.table? t.name).isNone) ≠ [] := by
    decide +kernel
  exact hone (h.dropped.symm.trans hnone)

end SchemaDiff

end SchemaCompiler

import Mathlib.Data.List.Basic
import SchemaCompiler.Proofs.Schema.Correspondence

/-!
# What the comparison finds

`SchemaDiff.between` collects its findings in lists, one list for each kind.  Here every list is written
as a walk through the tables of the new schema that asks each table for its `Fate`.  A fate is all that
the comparison knows of a table, and what a table contributes to one list follows from it alone.

* `Fate`, `Renames.fate` — a table is created, rebuilt, or changed in place.
* `Fate.additions`, `Fate.removals`, `Fate.rebuild?`, `Fate.newIndexes`, `Fate.goneIndexes` — what a fate
  contributes.
* `SchemaDiff.created_between` and its siblings — the lists of the comparison.
-/

namespace SchemaCompiler

open Text (sameName)
open TableChange (needsRebuild columnsMissingFrom alteredColumns)

/-! ## Fates -/

/-- What becomes of a table of the new schema; the old table has the renames applied. -/
inductive Fate where
  | created
  | rebuilt (old : Table)
  | inPlace (old : Table)

namespace Fate

variable (new : Table)

/-- The columns that are added in place. -/
def additions : Fate → List Column
  | .inPlace old => columnsMissingFrom new old
  | .created | .rebuilt _ => []

/-- The columns that are dropped in place. -/
def removals : Fate → List Column
  | .inPlace old => columnsMissingFrom old new
  | .created | .rebuilt _ => []

/-- The rebuild. -/
def rebuild? : Fate → Option Rebuild
  | .rebuilt old => some ⟨old, new⟩
  | .created | .inPlace _ => none

/-- The indexes that are created by themselves. -/
def newIndexes : Fate → List Index
  | .inPlace old => indexesMissingFrom new old
  | .created | .rebuilt _ => []

/-- The indexes that are dropped by themselves. -/
def goneIndexes : Fate → List Index
  | .inPlace old => indexesMissingFrom old new
  | .created | .rebuilt _ => []

variable {new} {f : Fate} {c : Column} {i : Index}

lemma mem_additions_iff :
    c ∈ f.additions new ↔ ∃ old, f = .inPlace old ∧ c ∈ columnsMissingFrom new old := by
  cases f <;> simp [additions]

lemma mem_removals_iff :
    c ∈ f.removals new ↔ ∃ old, f = .inPlace old ∧ c ∈ columnsMissingFrom old new := by
  cases f <;> simp [removals]

lemma rebuild?_eq_some_iff {b : Rebuild} :
    f.rebuild? new = some b ↔ f = .rebuilt b.old ∧ b.new = new := by
  obtain ⟨old, new'⟩ := b
  cases f <;> simp [rebuild?, eq_comm]

lemma mem_newIndexes_iff :
    i ∈ f.newIndexes new ↔ ∃ old, f = .inPlace old ∧ i ∈ indexesMissingFrom new old := by
  cases f <;> simp [newIndexes]

end Fate

variable {current target : Schema} {r : Renames} {u : Table}

namespace Renames

/-- What becomes of a table of the new schema. -/
def fate (r : Renames) (current : Schema) (u : Table) : Fate :=
  match r.source current u with
  | none => .created
  | some t =>
    if needsRebuild (r.apply t u.name) u then .rebuilt (r.apply t u.name)
    else .inPlace (r.apply t u.name)

lemma fate_eq_created_iff : r.fate current u = .created ↔ r.source current u = none := by
  unfold fate
  cases r.source current u with
  | none => simp
  | some t =>
      dsimp only
      split_ifs <;> simp

lemma fate_eq_rebuilt_iff {old : Table} :
    r.fate current u = .rebuilt old ↔
      ∃ t, r.source current u = some t ∧ r.apply t u.name = old ∧ needsRebuild old u = true := by
  unfold fate
  cases r.source current u with
  | none => simp
  | some t =>
      dsimp only
      simp only [Option.some.injEq, exists_eq_left']
      split_ifs with h
      · simp only [Fate.rebuilt.injEq]
        exact ⟨fun heq => ⟨heq, heq ▸ h⟩, fun heq => heq.1⟩
      · simp only [false_iff]
        rintro ⟨rfl, hrebuild⟩
        exact h hrebuild

lemma fate_eq_inPlace_iff {old : Table} :
    r.fate current u = .inPlace old ↔
      ∃ t, r.source current u = some t ∧ r.apply t u.name = old ∧ needsRebuild old u = false := by
  unfold fate
  cases r.source current u with
  | none => simp
  | some t =>
      dsimp only
      simp only [Option.some.injEq, exists_eq_left']
      split_ifs with h
      · simp only [false_iff]
        rintro ⟨rfl, hkept⟩
        rw [h] at hkept
        exact absurd hkept (by decide)
      · simp only [Fate.inPlace.injEq]
        exact ⟨fun heq => ⟨heq, by rw [← heq]; simpa using h⟩, fun heq => heq.1⟩

end Renames

/-! ## Indexes that come and go by themselves -/

/-- Among indexes of different names a look-up by the name of an index finds that index, if it is one of
them. -/
lemma findIndex?_eq_some_iff {is : List Index}
    (h : is.Pairwise fun i j => Text.toLowercase i.name ≠ Text.toLowercase j.name) {j : Index} :
    findIndex? is j.name = some j ↔ j ∈ is := by
  refine ⟨fun hfind => List.mem_of_find?_eq_some hfind, fun hj => ?_⟩
  cases hfind : findIndex? is j.name with
  | none => exact absurd (Text.sameName_refl j.name) (List.find?_eq_none.1 hfind j hj)
  | some i =>
      have hij : sameName i.name j.name = true := by simpa using List.find?_some hfind
      rw [eq_of_pairwise_not (R := fun i j : Index => Text.toLowercase i.name = Text.toLowercase j.name)
        (fun _ _ h => h.symm) h (List.mem_of_find?_eq_some hfind) hj
        (Text.toLowercase_eq_of_sameName hij)]

lemma pairwise_indexes_apply {t : Table} (ht : t.Valid) (r : Renames) (new : String) :
    (r.apply t new).indexes.Pairwise fun i j => Text.toLowercase i.name ≠ Text.toLowercase j.name :=
  List.pairwise_map.2 ht.indexes

/-- **An index is dropped by itself** if its table is changed in place and the new table does not have the
index in the form that the renames have given it. -/
lemma mem_goneIndexes (hu : u.Valid) {j : Index} :
    j ∈ (r.fate current u).goneIndexes u ↔ ∃ t, r.source current u = some t ∧
      needsRebuild (r.apply t u.name) u = false ∧
        (∃ i ∈ t.indexes, r.applyToIndex t.name u.name i = j) ∧ j ∉ u.indexes := by
  cases hf : r.fate current u with
  | created =>
      rw [Renames.fate_eq_created_iff] at hf
      simp [Fate.goneIndexes, hf]
  | rebuilt old =>
      obtain ⟨t, ht, rfl, hrebuild⟩ := Renames.fate_eq_rebuilt_iff.1 hf
      simp [Fate.goneIndexes, ht, hrebuild]
  | inPlace old =>
      obtain ⟨t, ht, rfl, hkept⟩ := Renames.fate_eq_inPlace_iff.1 hf
      have hindexes : (r.apply t u.name).indexes = t.indexes.map (r.applyToIndex t.name u.name) := rfl
      simp [Fate.goneIndexes, indexesMissingFrom, ht, hkept, findIndex?_eq_some_iff hu.indexes,
        hindexes]

/-- **An index is created by itself** if its table is changed in place and no index of the old table has
its form after the renames. -/
lemma mem_newIndexes (hcurrent : current.Valid) {j : Index} :
    j ∈ (r.fate current u).newIndexes u ↔ ∃ t, r.source current u = some t ∧
      needsRebuild (r.apply t u.name) u = false ∧ j ∈ u.indexes ∧
        ∀ i ∈ t.indexes, r.applyToIndex t.name u.name i ≠ j := by
  cases hf : r.fate current u with
  | created =>
      rw [Renames.fate_eq_created_iff] at hf
      simp [Fate.newIndexes, hf]
  | rebuilt old =>
      obtain ⟨t, ht, rfl, hrebuild⟩ := Renames.fate_eq_rebuilt_iff.1 hf
      simp [Fate.newIndexes, ht, hrebuild]
  | inPlace old =>
      obtain ⟨t, ht, rfl, hkept⟩ := Renames.fate_eq_inPlace_iff.1 hf
      have hindexes : (r.apply t u.name).indexes = t.indexes.map (r.applyToIndex t.name u.name) := rfl
      have hpair := pairwise_indexes_apply (hcurrent.tables t (Renames.mem_of_source ht).1) r u.name
      rw [hindexes] at hpair
      simp [Fate.newIndexes, indexesMissingFrom, ht, hkept, hindexes, findIndex?_eq_some_iff hpair]

/-! ## The lists of the comparison -/

namespace SchemaDiff

/-- The change that the comparison lists for a table, read off its fate. -/
lemma change?_origin (u : Table) :
    (origin current r u).change? =
      (r.source current u).bind fun t =>
        TableChange.between (r.apply t u.name) u (r.columnsOf u.name) := by
  rw [origin, Renames.source]
  cases current.table? (r.oldTable u.name) <;> rfl

/-- The changes that need nothing but renames, columns and rebuilds, one table after another. -/
lemma flatMap_changed {β : Type} (g : TableChange → List β) (hints : RenameHints) :
    (between current target hints).changed.flatMap g =
      target.tables.flatMap fun u =>
        ((origin current (Renames.resolve current target hints) u).change?.toList.flatMap g) := by
  simp only [between, List.filterMap_eq_flatMap_toList, List.flatMap_map, List.flatMap_assoc]

/-- **What the change of a table contributes to a list** follows from its fate, if a change without content
contributes nothing. -/
lemma flatMap_change {β : Type} (part : TableChange → List β) (u : Table)
    (hempty : part ⟨u.name, [], [], [], [], none⟩ = []) :
    (origin current r u).change?.toList.flatMap part =
      match r.fate current u with
      | .created => []
      | .rebuilt old =>
        part ⟨u.name, r.columnsOf u.name, [], [], alteredColumns old u, some ⟨old, u⟩⟩
      | .inPlace old => part ⟨u.name, r.columnsOf u.name, columnsMissingFrom u old,
          columnsMissingFrom old u, [], none⟩ := by
  rw [change?_origin, Renames.fate]
  cases r.source current u with
  | none => rfl
  | some t =>
      rw [Option.bind_some, TableChange.between]
      dsimp only
      split_ifs with hrebuild hnothing
      · simp
      · simp only [Bool.and_eq_true, List.isEmpty_iff] at hnothing
        simp [hnothing.1.1, hnothing.1.2, hnothing.2, hempty]
      · simp

lemma renamed_of_change (h : r.Fits current target) (hu : u ∈ target.tables) :
    ((origin current r u).change?.toList.flatMap fun c =>
        c.renamed.map fun p => (⟨c.table, p.1, p.2⟩ : ColumnRename))
      = (r.columnsOf u.name).map fun p => ⟨u.name, p.1, p.2⟩ := by
  rw [flatMap_change _ u rfl]
  cases hf : r.fate current u with
  | created =>
      rw [Renames.columnsOf_of_no_source h hu (Renames.fate_eq_created_iff.1 hf)]
      rfl
  | rebuilt old | inPlace old => rfl

lemma additions_of_change (u : Table) :
    ((origin current r u).change?.toList.flatMap fun c => c.added.map fun a => (c.table, a))
      = ((r.fate current u).additions u).map fun a => (u.name, a) := by
  rw [flatMap_change _ u rfl]
  cases r.fate current u <;> rfl

lemma removals_of_change (u : Table) :
    ((origin current r u).change?.toList.flatMap fun c => c.dropped.map fun a => (c.table, a))
      = ((r.fate current u).removals u).map fun a => (u.name, a) := by
  rw [flatMap_change _ u rfl]
  cases r.fate current u <;> rfl

lemma rebuild_of_change (u : Table) :
    (origin current r u).change?.bind (·.rebuild) = (r.fate current u).rebuild? u := by
  rw [change?_origin, Renames.fate]
  cases r.source current u with
  | none => rfl
  | some t =>
      rw [Option.bind_some, TableChange.between]
      dsimp only
      split_ifs <;> rfl

lemma compared_of_fate (u : Table) :
    ((origin current r u).compared? u) =
      match r.fate current u with
      | .inPlace old => some (old, u)
      | .created | .rebuilt _ => none := by
  rw [origin, Renames.fate, Renames.source]
  cases current.table? (r.oldTable u.name) with
  | none => rfl
  | some t =>
      simp only [Origin.compared?, TableChange.between]
      split_ifs <;> simp_all

variable (current target : Schema) (hints : RenameHints)

/-- A table is created if it takes the place of no old table. -/
lemma created_between :
    (between current target hints).created =
      target.tables.filter fun u =>
        ((Renames.resolve current target hints).source current u).isNone := by
  simp only [between, List.filterMap_map, Function.comp_def]
  rw [← List.filterMap_eq_filter]
  refine List.filterMap_congr fun u _ => ?_
  rcases h : current.table? ((Renames.resolve current target hints).oldTable u.name) with _ | t
  · simp [origin, Renames.source, h, Option.guard, Origin.created?]
  · simp [origin, Renames.source, h, Option.guard, Origin.created?]

/-- A table is dropped if it shares its small form with no table whose place is taken. -/
lemma mem_dropped_between {t : Table} :
    t ∈ (between current target hints).dropped ↔
      t ∈ current.tables ∧ ∀ u ∈ target.tables, ∀ s,
        (Renames.resolve current target hints).source current u = some s →
          Text.toLowercase s.name ≠ Text.toLowercase t.name := by
  have hsource : ∀ u, (origin current (Renames.resolve current target hints) u).source?
      = (Renames.resolve current target hints).source current u := by
    intro u
    rw [origin, Renames.source]
    cases current.table? ((Renames.resolve current target hints).oldTable u.name) <;> rfl
  simp only [between, List.mem_filter, isMatched, Bool.not_eq_true', List.any_eq_false,
    List.mem_filterMap, List.mem_map, beq_iff_eq]
  refine and_congr_right fun _ => ⟨fun h u hu s hs => h s ⟨_, ⟨u, hu, rfl⟩, ?_⟩, ?_⟩
  · rw [hsource, hs]
  · rintro h s ⟨-, ⟨u, hu, rfl⟩, hs⟩
    exact h u hu s (by rw [← hsource, hs])

lemma renamedColumns_between :
    ((between current target hints).changed.flatMap fun c =>
        c.renamed.map fun p => (⟨c.table, p.1, p.2⟩ : ColumnRename))
      = ((Renames.resolve current target hints).inOrder target).columns := by
  rw [flatMap_changed, Renames.inOrder]
  exact List.flatMap_congr fun u hu =>
    renamed_of_change (Renames.resolve_fits current target hints) hu

lemma addedColumns_between :
    ((between current target hints).changed.flatMap fun c => c.added.map fun a => (c.table, a))
      = target.tables.flatMap fun u =>
          (((Renames.resolve current target hints).fate current u).additions u).map (u.name, ·) := by
  rw [flatMap_changed]
  exact List.flatMap_congr fun u _ => additions_of_change u

lemma droppedColumns_between :
    ((between current target hints).changed.flatMap fun c => c.dropped.map fun a => (c.table, a))
      = target.tables.flatMap fun u =>
          (((Renames.resolve current target hints).fate current u).removals u).map (u.name, ·) := by
  rw [flatMap_changed]
  exact List.flatMap_congr fun u _ => removals_of_change u

lemma rebuilds_between :
    (between current target hints).changed.filterMap (·.rebuild)
      = target.tables.filterMap fun u =>
          ((Renames.resolve current target hints).fate current u).rebuild? u := by
  simp only [between, List.filterMap_map, List.filterMap_filterMap, Function.comp_def]
  exact List.filterMap_congr fun u _ => rebuild_of_change u

lemma createdIndexes_between :
    (between current target hints).createdIndexes
      = target.tables.flatMap fun u =>
          ((Renames.resolve current target hints).fate current u).newIndexes u := by
  simp only [between, List.filterMap_eq_flatMap_toList, List.flatMap_map, List.flatMap_assoc]
  refine List.flatMap_congr fun u _ => ?_
  rw [compared_of_fate]
  cases (Renames.resolve current target hints).fate current u <;> simp [Fate.newIndexes]

lemma droppedIndexes_between :
    (between current target hints).droppedIndexes
      = target.tables.flatMap fun u =>
          ((Renames.resolve current target hints).fate current u).goneIndexes u := by
  simp only [between, List.filterMap_eq_flatMap_toList, List.flatMap_map, List.flatMap_assoc]
  refine List.flatMap_congr fun u _ => ?_
  rw [compared_of_fate]
  cases (Renames.resolve current target hints).fate current u <;> simp [Fate.goneIndexes]

end SchemaDiff

end SchemaCompiler

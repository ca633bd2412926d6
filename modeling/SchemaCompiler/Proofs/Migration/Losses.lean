import SchemaCompiler.Proofs.Migration.Rollback

/-!
# What is lost without permission

The compiler refuses a migration that can lose something unless it is allowed to.  Whether it sees a loss
depends on where the loss happens.  A table that is dropped, a column that is dropped in place or left out
of a rebuild, and an index that is dropped by itself are all seen.  Two losses are not, and
`compileDiff_keeps_iff` says that there are no others.

* A table that the comparison overlooks (`Overlooked`) is not in the new schema and not dropped either.
* A table is rebuilt, and an index that its new definition does not have goes with the old one.
-/

namespace SchemaCompiler.Migration

open Text (sameName)
open TableChange (needsRebuild columnsMissingFrom)

/-- Every table, column and index of the old schema is in the new one, under the name that the renames have
given it. -/
structure NothingLost (current target : Schema) (r : Renames) : Prop where
  tables : ∀ t ∈ current.tables, ∃ u ∈ target.tables, sameName t.name (r.oldTable u.name) = true
  columns : ∀ t ∈ current.tables, ∀ u ∈ target.tables, sameName t.name (r.oldTable u.name) = true →
    ∀ c ∈ t.columns, u.hasColumn (r.newColumn u.name c.name) = true
  indexes : ∀ t ∈ current.tables, ∀ u ∈ target.tables, sameName t.name (r.oldTable u.name) = true →
    ∀ i ∈ t.indexes, ∃ j ∈ u.indexes, sameName j.name i.name = true

/-- The losses that the compiler does not see do not happen. -/
structure LossesSeen (current target : Schema) (r : Renames) : Prop where
  noticed : ∀ t, ¬ Overlooked current target r t
  /-- A table that is rebuilt keeps its indexes. -/
  rebuilt : ∀ u ∈ target.tables, ∀ t, r.source current u = some t →
    needsRebuild (r.apply t u.name) u = true → ∀ i ∈ t.indexes,
      ∃ j ∈ u.indexes, sameName j.name i.name = true

variable {current target : Schema} {r : Renames} {t u : Table}

/-- The old table under a name is the one whose place is taken. -/
lemma source_eq_some_iff_sameName :
    r.source current u = some t ↔ t ∈ current.tables ∧ sameName t.name (r.oldTable u.name) = true :=
  Schema.table?_eq_some_iff

namespace Layout

variable (l : Layout current target r) (hsafe : ∀ a ∈ l.actions, a.isDestructive = false)

include hsafe in
/-- A table that is not overlooked is kept. -/
lemma exists_of_safe (ht : t ∈ current.tables) (hnoticed : ¬ Overlooked current target r t) :
    ∃ u ∈ target.tables, r.source current u = some t := by
  rcases l.lot_of_table ht with h | h | h
  · exact h
  · rw [l.dropped_eq_nil hsafe] at h
    cases h
  · exact absurd h hnoticed

include hsafe in
/-- **No column is lost,** in place or in a rebuild. -/
lemma hasColumn_of_safe (hu : u ∈ target.tables) (hs : r.source current u = some t) :
    ∀ c ∈ t.columns, u.hasColumn (r.newColumn u.name c.name) = true := by
  have hnone : columnsMissingFrom (r.apply t u.name) u = [] := by
    cases hrebuild : needsRebuild (r.apply t u.name) u with
    | false =>
        have hremovals := l.removals_eq_nil hsafe hu
        rwa [Renames.fate_eq_inPlace_iff.2 ⟨t, hs, rfl, hrebuild⟩] at hremovals
    | true =>
        exact l.lostColumns_eq_nil hsafe hu (Renames.fate_eq_rebuilt_iff.2 ⟨t, hs, rfl, hrebuild⟩)
  intro c hc
  by_contra hno
  refine List.eq_nil_iff_forall_not_mem.1 hnone (r.applyToColumn u.name c)
    (List.mem_filter.2 ⟨List.mem_map_of_mem hc, ?_⟩)
  simpa [Renames.applyToColumn] using hno

include hsafe in
/-- **No index is lost** by a table that is changed in place. -/
lemma exists_index_of_safe (htarget : target.Valid) (hu : u ∈ target.tables)
    (hs : r.source current u = some t) (hkept : needsRebuild (r.apply t u.name) u = false) :
    ∀ i ∈ t.indexes, ∃ j ∈ u.indexes, sameName j.name i.name = true := by
  intro i hi
  refine ⟨r.applyToIndex t.name u.name i, ?_, Text.sameName_refl _⟩
  by_contra hnot
  have hgone : r.applyToIndex t.name u.name i ∈ (r.fate current u).goneIndexes u :=
    (mem_goneIndexes (htarget.tables u hu)).2 ⟨t, hs, hkept, ⟨i, hi, rfl⟩, hnot⟩
  rw [l.goneIndexes_eq_nil hsafe hu] at hgone
  cases hgone

include hsafe in
/-- **Without destructive actions nothing is lost exactly if no loss goes unseen.** -/
theorem nothingLost_iff (htarget : target.Valid) :
    NothingLost current target r ↔ LossesSeen current target r := by
  constructor
  · intro h
    refine ⟨fun t ht => ?_, fun u hu t hs _ i hi => ?_⟩
    · obtain ⟨u, hu, hname⟩ := h.tables t ht.1
      exact ht.2.1 u hu (source_eq_some_iff_sameName.2 ⟨ht.1, hname⟩)
    · obtain ⟨ht, hname⟩ := source_eq_some_iff_sameName.1 hs
      exact h.indexes t ht u hu hname i hi
  · intro h
    refine ⟨fun t ht => ?_, fun t ht u hu hname => ?_, fun t ht u hu hname => ?_⟩
    · obtain ⟨u, hu, hs⟩ := l.exists_of_safe hsafe ht (h.noticed t)
      exact ⟨u, hu, (source_eq_some_iff_sameName.1 hs).2⟩
    · exact l.hasColumn_of_safe hsafe hu (source_eq_some_iff_sameName.2 ⟨ht, hname⟩)
    · have hs := source_eq_some_iff_sameName.2 ⟨ht, hname⟩
      cases hrebuild : needsRebuild (r.apply t u.name) u with
      | false => exact l.exists_index_of_safe hsafe htarget hu hs hrebuild
      | true => exact h.rebuilt u hu t hs hrebuild

end Layout

/-! ## The whole migration -/

variable {hints : RenameHints} {version : Nat} {name : String} {m : Migration}

/-- **What is lost without permission.**  A migration that compiles without permission loses nothing exactly
if no table is overlooked and every table that is rebuilt keeps its indexes.  Where that is so, a migration
that loses something is refused without permission. -/
theorem compileDiff_keeps_iff (current target : Schema) (hints : RenameHints) (version : Nat)
    (name : String) :
    (∀ m, compileDiff false current target hints version name = .ok m →
      (NothingLost current target (Renames.resolve current target hints) ↔
        LossesSeen current target (Renames.resolve current target hints))) ∧
    ∀ m, compileDiff true current target hints version name = .ok m →
      LossesSeen current target (Renames.resolve current target hints) →
      ¬ NothingLost current target (Renames.resolve current target hints) →
      ∃ a ∈ m.actions, a.isDestructive = true ∧
        compileDiff false current target hints version name
          = .error (.migration (.destructiveActionBlocked version a)) := by
  have hkeeps : ∀ m, compileDiff false current target hints version name = .ok m →
      (NothingLost current target (Renames.resolve current target hints) ↔
        LossesSeen current target (Renames.resolve current target hints)) := by
    intro m h
    obtain ⟨htarget, hsafe, l, hactions⟩ := layout_of_compileDiff h
    exact l.nothingLost_iff (fun a ha => hsafe rfl a (hactions ▸ ha)) (Schema.valid_of_errors htarget)
  refine ⟨hkeeps, fun m h hseen hlost => ?_⟩
  have hfalse := compileDiff_false h
  cases hfind : m.actions.find? (·.isDestructive) with
  | none =>
      rw [hfind] at hfalse
      exact absurd ((hkeeps m hfalse).2 hseen) hlost
  | some a =>
      rw [hfind] at hfalse
      exact ⟨a, List.mem_of_find?_eq_some hfind, List.find?_some hfind, hfalse⟩

/-- Posts that become articles lose nothing; articles that replace posts are refused. -/
theorem postSchema_kept_or_refused :
    (∃ m, compileDiff false postSchema magazineSchema magazineHints 1 "magazine" = .ok m) ∧
      NothingLost postSchema magazineSchema
        (Renames.resolve postSchema magazineSchema magazineHints) ∧
      ∃ a, compileDiff false postSchema articleSchema {} 1 "articles"
        = .error (.migration (.destructiveActionBlocked 1 a)) := by
  obtain ⟨m, hm, -⟩ := exists_magazine
  obtain ⟨m', hm', -⟩ := exists_replacement
  have hseen : LossesSeen postSchema magazineSchema
      (Renames.resolve postSchema magazineSchema magazineHints) := by
    refine ⟨not_overlooked (by decide +kernel), fun u hu t hs _ i hi => ?_⟩
    have hkept : ∀ u ∈ magazineSchema.tables, ∀ t ∈ postSchema.tables,
        (Renames.resolve postSchema magazineSchema magazineHints).source postSchema u = some t →
          ∀ i ∈ t.indexes, ∃ j ∈ u.indexes, sameName j.name i.name = true := by decide +kernel
    exact hkept u hu t (Renames.mem_of_source hs).1 hs i hi
  have hseen' : LossesSeen postSchema articleSchema (Renames.resolve postSchema articleSchema {}) := by
    refine ⟨not_overlooked (by decide +kernel), fun u hu t hs _ _ _ => ?_⟩
    have hnone : ∀ u ∈ articleSchema.tables,
        (Renames.resolve postSchema articleSchema {}).source postSchema u = none := by decide +kernel
    rw [hnone u hu] at hs
    cases hs
  have hlost : ¬ NothingLost postSchema articleSchema (Renames.resolve postSchema articleSchema {}) :=
    fun h => absurd h.tables (by decide +kernel)
  obtain ⟨a, -, -, ha⟩ := (compileDiff_keeps_iff postSchema articleSchema {} 1 "articles").2 m' hm'
    hseen' hlost
  exact ⟨⟨m, hm⟩, ((compileDiff_keeps_iff postSchema magazineSchema magazineHints 1 "magazine").1 m
    hm).2 hseen, a, ha⟩

/-- Posts whose title may be missing, and that are no longer found by it. -/
def looseSchema : Schema where
  tables := [
    { name := "posts",
      columns := [(Column.ofType "id" .integer).asPrimaryKey, (Column.ofType "title" .text).asNullable] }]
  relationships := []
  distinct := by decide +kernel

/-- The index is lost in a rebuild that needs no permission. -/
theorem looseSchema_not_refused : postSchema.errors = [] ∧ looseSchema.errors = [] ∧
    (∃ m, compileDiff false postSchema looseSchema {} 1 "loosen" = .ok m) ∧
      ¬ NothingLost postSchema looseSchema (Renames.resolve postSchema looseSchema {}) := by
  obtain ⟨m, hm, -⟩ : ∃ m,
      compileDiff false postSchema looseSchema {} 1 "loosen" = .ok m ∧
        m.actions = plainActions postSchema looseSchema {} := exists_compileDiff (by decide +kernel)
  exact ⟨by decide +kernel, by decide +kernel, ⟨m, hm⟩, fun h => absurd h.indexes (by decide +kernel)⟩

end SchemaCompiler.Migration

import SchemaCompiler.Proofs.Catalog.Renaming

/-!
# Renames taken back

A rename reaches foreign keys and constraints by name.  To be taken back it must not have run together what
was apart before: no foreign key and no constraint may have mentioned the new name already.  In a catalog
whose foreign keys and constraints end at columns that are there (`Catalog.Resolved`) the new name, being
free, is mentioned by none, and renaming back restores the catalog.

* `Catalog.Resolved` — foreign keys and constraints name columns that are there.
* `Catalog.renameTable_back`, `Catalog.renameColumn_back` — a rename and its opposite cancel.
* `Catalog.Resolved.renameTable`, `Catalog.Resolved.renameColumn` — renames leave nothing dangling.
-/

namespace SchemaCompiler

variable {α : Type}

/-! ## Renames of one table, taken back -/

lemma TableConstraint.columns_mapColumns (k : TableConstraint) (f : String → String) :
    (k.mapColumns f).columns = k.columns.map f := by
  cases k <;> rfl

namespace CatalogTable

variable {t : CatalogTable α} {table old new : String}

/-- A foreign key follows a rename of its table and comes back. -/
lemma retargetTable_back (h : ∀ x ∈ t.columns, ∀ g ∈ x.targets, g.1 ≠ new) :
    (t.retargetTable old new).retargetTable new old = t := by
  have hcolumns : t.columns.map ((CatalogColumn.retargetTable new old) ∘
      (CatalogColumn.retargetTable old new)) = t.columns := by
    conv_rhs => rw [← List.map_id t.columns]
    refine List.map_congr_left fun x hx => ?_
    have htargets : x.targets.map ((fun g => (replaced new old g.1, g.2)) ∘
        fun g => (replaced old new g.1, g.2)) = x.targets := by
      conv_rhs => rw [← List.map_id x.targets]
      refine List.map_congr_left fun g hg => ?_
      simp [replaced_replaced (h x hx g hg)]
    simp [CatalogColumn.retargetTable, htargets]
  simp [retargetTable, hcolumns]

/-- A foreign key follows a rename of its column and comes back. -/
lemma retargetColumn_back (h : ∀ x ∈ t.columns, ∀ g ∈ x.targets, g.1 = table → g.2 ≠ new) :
    (t.retargetColumn table old new).retargetColumn table new old = t := by
  have hcolumns : t.columns.map ((CatalogColumn.retargetColumn table new old) ∘
      (CatalogColumn.retargetColumn table old new)) = t.columns := by
    conv_rhs => rw [← List.map_id t.columns]
    refine List.map_congr_left fun x hx => ?_
    have htargets : x.targets.map ((fun g => (g.1, if g.1 = table then replaced new old g.2 else g.2)) ∘
        fun g => (g.1, if g.1 = table then replaced old new g.2 else g.2)) = x.targets := by
      conv_rhs => rw [← List.map_id x.targets]
      refine List.map_congr_left fun g hg => ?_
      by_cases hg1 : g.1 = table
      · simp [← hg1, replaced_replaced (h x hx g hg hg1)]
      · simp [hg1]
    simp [CatalogColumn.retargetColumn, htargets]
  simp [retargetColumn, hcolumns]

lemma mapColumns_id_of {k : TableConstraint} {f : String → String} (h : ∀ x ∈ k.columns, f x = x) :
    k.mapColumns f = k := by
  have hmap : ∀ xs : List String, (∀ x ∈ xs, f x = x) → xs.map f = xs := fun xs hxs => by
    conv_rhs => rw [← List.map_id xs]
    exact List.map_congr_left hxs
  cases k with
  | primaryKey xs => exact congrArg TableConstraint.primaryKey (hmap xs h)
  | unique xs => exact congrArg TableConstraint.unique (hmap xs h)
  | check e => rfl

/-- Column names and constraints follow a rename of a column and come back. -/
lemma renameColumn_back (hcolumns : t.hasColumn new = false)
    (hconstraints : ∀ k ∈ t.constraints, ∀ x ∈ k.columns, x ≠ new) :
    (t.renameColumn old new).renameColumn new old = t := by
  have hback : t.columns.map ((CatalogColumn.rename new old) ∘ (CatalogColumn.rename old new))
      = t.columns := by
    conv_rhs => rw [← List.map_id t.columns]
    refine List.map_congr_left fun x hx => ?_
    simp [CatalogColumn.rename, replaced_replaced (hasColumn_eq_false_iff.1 hcolumns x hx)]
  have hkeys : t.constraints.map ((TableConstraint.mapColumns (replaced new old)) ∘
      (TableConstraint.mapColumns (replaced old new))) = t.constraints := by
    conv_rhs => rw [← List.map_id t.constraints]
    refine List.map_congr_left fun k hk => ?_
    rw [Function.comp_apply, TableConstraint.mapColumns_mapColumns]
    exact mapColumns_id_of fun x hx => replaced_replaced (hconstraints k hk x hx)
  simp [renameColumn, hback, hkeys]

/-- Names of columns and targets of foreign keys are renamed independently. -/
lemma renameColumn_retargetColumn (t : CatalogTable α) (table old new a b : String) :
    (t.retargetColumn table old new).renameColumn a b
      = (t.renameColumn a b).retargetColumn table old new := by
  simp [renameColumn, retargetColumn, CatalogColumn.rename, CatalogColumn.retargetColumn]

/-- A column is there after a rename, under the name that it has then. -/
lemma hasColumn_renameColumn (old new : String) {x : String} (hx : t.hasColumn x = true) :
    (t.renameColumn old new).hasColumn (replaced old new x) = true := by
  obtain ⟨c, hc, rfl⟩ := hasColumn_iff.1 hx
  exact hasColumn_iff.2 ⟨c.rename old new, List.mem_map_of_mem hc, rfl⟩

end CatalogTable

/-! ## Catalogs without dangling names -/

namespace Catalog

variable {c d : Catalog α} {table old new : String}

/-- Foreign keys and constraints name columns that are there. -/
structure Resolved (c : Catalog α) : Prop where
  targets : ∀ k t, c k = some t → ∀ x ∈ t.columns, ∀ g ∈ x.targets,
    ∃ s, c g.1 = some s ∧ s.hasColumn g.2 = true
  constraints : ∀ k t, c k = some t → ∀ κ ∈ t.constraints, ∀ x ∈ κ.columns, t.hasColumn x = true

/-- Where a table is after a rename. -/
lemma apply_of_renameTable (h : c.renameTable old new = some d) {k : String} {s : CatalogTable α}
    (hs : c k = some s) : d (replaced old new k) = some (s.retargetTable old new) := by
  obtain ⟨t, ht, hnew, rfl⟩ := renameTable_eq_some_iff.1 h
  by_cases hk : k = old
  · subst hk
    rw [ht, Option.some.injEq] at hs
    simp [hs]
  · have hkn : k ≠ new := fun heq => by simp [← heq, hs] at hnew
    simp [replaced_of_ne hk, hk, hkn, hs]

/-- A table after a rename, and where it was before. -/
lemma exists_of_renameTable (h : c.renameTable old new = some d) {k : String} {s : CatalogTable α}
    (hs : d k = some s) : ∃ k' s', c k' = some s' ∧ s = s'.retargetTable old new := by
  obtain ⟨t, ht, hnew, rfl⟩ := renameTable_eq_some_iff.1 h
  obtain ⟨s', hs', rfl⟩ := Option.map_eq_some_iff.1 hs
  by_cases hkn : k = new
  · subst hkn
    rw [Function.update_self, Option.some.injEq] at hs'
    exact ⟨old, t, ht, by rw [hs']⟩
  · rw [Function.update_of_ne hkn] at hs'
    by_cases hko : k = old
    · simp [hko] at hs'
    · rw [Function.update_of_ne hko] at hs'
      exact ⟨k, s', hs', rfl⟩

/-- **A rename of a table and its opposite cancel.** -/
theorem renameTable_back (hc : c.Resolved) (h : c.renameTable old new = some d) :
    d.renameTable new old = some c := by
  obtain ⟨t, ht, hnew, rfl⟩ := renameTable_eq_some_iff.1 h
  have hne : old ≠ new := fun heq => by simp [heq, hnew] at ht
  have hback : ∀ k s, c k = some s → (s.retargetTable old new).retargetTable new old = s := by
    intro k s hs
    refine CatalogTable.retargetTable_back fun x hx g hg heq => ?_
    obtain ⟨s', hs', -⟩ := hc.targets k s hs x hx g hg
    rw [heq, hnew] at hs'
    exact absurd hs' (by simp)
  refine renameTable_eq_some_iff.2 ⟨t.retargetTable old new, by simp, by simp [hne], ?_⟩
  funext k
  by_cases hko : k = old
  · subst hko
    simp [ht, hback k t ht]
  · rw [Function.update_of_ne hko]
    by_cases hkn : k = new
    · subst hkn
      simp [hnew]
    · rw [Function.update_of_ne hkn, Function.update_of_ne hkn, Function.update_of_ne hko]
      cases hk : c k with
      | none => rfl
      | some s => simp [hback k s hk]

/-- Renames of tables leave nothing dangling. -/
theorem Resolved.renameTable (hc : c.Resolved) (h : c.renameTable old new = some d) : d.Resolved where
  targets k s hs x hx g hg := by
    obtain ⟨k', s', hs', rfl⟩ := exists_of_renameTable h hs
    obtain ⟨x', hx', rfl⟩ := List.mem_map.1 hx
    obtain ⟨g', hg', rfl⟩ := List.mem_map.1 hg
    obtain ⟨u, hu, hcol⟩ := hc.targets k' s' hs' x' hx' g' hg'
    exact ⟨_, apply_of_renameTable h hu, by simpa using hcol⟩
  constraints k s hs κ hκ x hx := by
    obtain ⟨k', s', hs', rfl⟩ := exists_of_renameTable h hs
    rw [CatalogTable.hasColumn_retargetTable]
    exact hc.constraints k' s' hs' κ hκ x hx

/-- **A rename of a column and its opposite cancel.** -/
theorem renameColumn_back (hc : c.Resolved) (h : c.renameColumn table old new = some d) :
    d.renameColumn table new old = some c := by
  obtain ⟨t, ht, hold, hnew, rfl⟩ := renameColumn_eq_some_iff.1 h
  have hne : old ≠ new := fun heq => by simp [heq, hnew] at hold
  have hback : ∀ k s, c k = some s → columnRenamed table new old k (columnRenamed table old new k s) = s := by
    intro k s hs
    have htargets : ∀ x ∈ s.columns, ∀ g ∈ x.targets, g.1 = table → g.2 ≠ new := by
      intro x hx g hg hg1 hg2
      obtain ⟨s', hs', hcol⟩ := hc.targets k s hs x hx g hg
      rw [hg1, ht, Option.some.injEq] at hs'
      rw [← hs', hg2, hnew] at hcol
      exact absurd hcol (by decide)
    unfold columnRenamed
    split_ifs with hk
    · subst hk
      rw [ht, Option.some.injEq] at hs
      subst hs
      have hconstraints : ∀ κ ∈ t.constraints, ∀ x ∈ κ.columns, x ≠ new := by
        intro κ hκ x hx heq
        have := hc.constraints k t ht κ hκ x hx
        rw [heq, hnew] at this
        exact absurd this (by decide)
      rw [← CatalogTable.renameColumn_retargetColumn, CatalogTable.renameColumn_retargetColumn,
        CatalogTable.renameColumn_retargetColumn, CatalogTable.renameColumn_back hnew hconstraints]
      exact CatalogTable.retargetColumn_back htargets
    · exact CatalogTable.retargetColumn_back htargets
  have hhas : (columnRenamed table old new table t).hasColumn new = true ∧
      (columnRenamed table old new table t).hasColumn old = false := by
    simp only [columnRenamed, if_true, CatalogTable.hasColumn_retargetColumn]
    refine ⟨by simpa using CatalogTable.hasColumn_renameColumn old new hold,
      CatalogTable.hasColumn_eq_false_iff.2 fun x hx => ?_⟩
    obtain ⟨y, -, rfl⟩ := List.mem_map.1 hx
    by_cases hy : y.name = old
    · simp [CatalogColumn.rename, hy, hne.symm]
    · simp [CatalogColumn.rename, replaced_of_ne hy, hy]
  refine renameColumn_eq_some_iff.2 ⟨_, by rw [ht]; rfl, hhas.1, hhas.2, funext fun k => ?_⟩
  cases hk : c k with
  | none => rfl
  | some s => simp [hback k s hk]

/-- Renames of columns leave nothing dangling. -/
theorem Resolved.renameColumn (hc : c.Resolved) (h : c.renameColumn table old new = some d) :
    d.Resolved := by
  obtain ⟨t, ht, hold, -, rfl⟩ := renameColumn_eq_some_iff.1 h
  refine ⟨fun k s hs x hx g hg => ?_, fun k s hs κ hκ x hx => ?_⟩ <;>
    obtain ⟨s', hs', rfl⟩ := Option.map_eq_some_iff.1 hs
  · have htarget : ∃ y ∈ s'.columns, ∃ g' ∈ y.targets,
        g = (g'.1, if g'.1 = table then replaced old new g'.2 else g'.2) := by
      unfold columnRenamed at hx
      split_ifs at hx
      · obtain ⟨y, hy, rfl⟩ := List.mem_map.1 hx
        obtain ⟨z, hz, rfl⟩ := List.mem_map.1 hy
        obtain ⟨g', hg', rfl⟩ := List.mem_map.1 hg
        exact ⟨z, hz, g', hg', rfl⟩
      · obtain ⟨y, hy, rfl⟩ := List.mem_map.1 hx
        obtain ⟨g', hg', rfl⟩ := List.mem_map.1 hg
        exact ⟨y, hy, g', hg', rfl⟩
    obtain ⟨y, hy, g', hg', rfl⟩ := htarget
    obtain ⟨u, hu, hcol⟩ := hc.targets k s' hs' y hy g' hg'
    refine ⟨columnRenamed table old new g'.1 u, by simp [hu], ?_⟩
    rw [columnRenamed, CatalogTable.hasColumn_retargetColumn]
    dsimp only
    split_ifs with hg1
    · rw [hg1, ht, Option.some.injEq] at hu
      subst hu
      exact CatalogTable.hasColumn_renameColumn old new hcol
    · exact hcol
  · unfold columnRenamed at hκ ⊢
    rw [CatalogTable.hasColumn_retargetColumn]
    split_ifs at hκ ⊢ with hk
    · subst hk
      rw [ht, Option.some.injEq] at hs'
      subst hs'
      obtain ⟨κ', hκ', rfl⟩ := List.mem_map.1 hκ
      rw [TableConstraint.columns_mapColumns] at hx
      obtain ⟨y, hy, rfl⟩ := List.mem_map.1 hx
      exact CatalogTable.hasColumn_renameColumn old new (hc.constraints k t ht κ' hκ' y hy)
    · exact hc.constraints k s' hs' κ hκ x hx

end Catalog

end SchemaCompiler

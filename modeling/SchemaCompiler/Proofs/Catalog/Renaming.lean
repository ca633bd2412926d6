import SchemaCompiler.Proofs.Catalog.Basic

/-!
# Renaming one by one and renaming at once

The compiler looks at a schema *after all renames at once* (`Renames.apply`), while a database carries
out one rename after another.  The two agree, and this file says when: a list of renames can be carried
out in order exactly if no two of them share an old or a new name, and then the database ends up with
what `Renames.apply` computes, foreign keys and constraints included.

The proof walks through the list with the renames *done so far* in hand.  These are renames themselves,
so the state in between is a catalog of the same form, and one more rename at the end of the list is one
more step of the database (`renameTable_of_iff`, `renameColumn_of_iff`).

* `TablesFit`, `ColumnsFit` — each rename on its own is possible: the old name is there, the new one free.
* `TablesApart`, `ColumnsApart` — no two renames share a name.
* `renameTables_of_iff`, `renameColumns_of_iff` — the run of a whole list.
-/

namespace SchemaCompiler

open Text (sameName folded folded_eq_iff folded_ne_iff sameName_congr_left sameName_congr_right)

variable {α : Type} {v : View α} {tables : List Table}

/-- In a list whose members are pairwise unrelated, related members are equal. -/
lemma eq_of_pairwise_not {β : Type} {R : β → β → Prop} {l : List β} (hsymm : ∀ a b, R a b → R b a)
    (h : l.Pairwise fun a b => ¬ R a b) {a b : β} (ha : a ∈ l) (hb : b ∈ l) (hab : R a b) :
    a = b := by
  induction l with
  | nil => cases ha
  | cons x l ih =>
      rw [List.pairwise_cons] at h
      rcases List.mem_cons.1 ha with hax | ha' <;> rcases List.mem_cons.1 hb with hbx | hb'
      · rw [hax, hbx]
      · exact absurd (hax ▸ hab) (h.1 b hb')
      · exact absurd (hsymm _ _ (hbx ▸ hab)) (h.1 a ha')
      · exact ih h.2 ha' hb'

namespace Renames

/-! ## Which rename applies to a name -/

/-- The tables as they stand after the renames. -/
def applyAll (r : Renames) (tables : List Table) : List Table :=
  tables.map fun t => r.apply t (r.newTable t.name)

@[simp] lemma name_apply (r : Renames) (t : Table) (new : String) : (r.apply t new).name = new := rfl

lemma mem_applyAll {r : Renames} {t' : Table} :
    t' ∈ r.applyAll tables ↔ ∃ t ∈ tables, r.apply t (r.newTable t.name) = t' := List.mem_map

/-- Either a rename applies to a table name, or none does. -/
lemma newTable_cases (r : Renames) (x : String) :
    (∃ p ∈ r.tables, sameName p.1 x = true ∧ r.newTable x = p.2) ∨
      ((∀ p ∈ r.tables, sameName p.1 x = false) ∧ r.newTable x = x) := by
  cases h : r.tables.find? fun p => sameName p.1 x with
  | some p =>
      have hp : sameName p.1 x = true := by simpa using List.find?_some h
      refine Or.inl ⟨p, List.mem_of_find?_eq_some h, hp, ?_⟩
      simp only [newTable, h]
  | none =>
      refine Or.inr ⟨fun p hp => by simpa using List.find?_eq_none.1 h p hp, ?_⟩
      simp only [newTable, h]

/-- Either a rename applies to a column name, or none does. -/
lemma newColumn_cases (r : Renames) (table x : String) :
    (∃ c ∈ r.columns, sameName c.table table = true ∧ sameName c.old x = true ∧
        r.newColumn table x = c.new) ∨
      ((∀ c ∈ r.columns, sameName c.table table = true → sameName c.old x = false) ∧
        r.newColumn table x = x) := by
  cases h : r.columns.find? fun c => sameName c.table table && sameName c.old x with
  | some c =>
      have hc : sameName c.table table = true ∧ sameName c.old x = true := by
        simpa using List.find?_some h
      refine Or.inl ⟨c, List.mem_of_find?_eq_some h, hc.1, hc.2, ?_⟩
      simp only [newColumn, h]
  | none =>
      refine Or.inr ⟨fun c hc ht => ?_, by simp only [newColumn, h]⟩
      have := List.find?_eq_none.1 h c hc
      simpa [ht] using this

/-- Spellings of one table name are renamed to spellings of one name. -/
lemma folded_newTable_congr (r : Renames) {x y : String} (h : sameName x y = true) :
    folded (r.newTable x) = folded (r.newTable y) := by
  simp only [newTable, fun p : String × String => sameName_congr_right h p.1]
  cases r.tables.find? fun p => sameName p.1 y with
  | some p => rfl
  | none => exact folded_eq_iff.2 h

/-- Only the name of the table counts for the renames of its columns, not the spelling. -/
lemma newColumn_congr (r : Renames) {s t : String} (ht : sameName s t = true) (x : String) :
    r.newColumn s x = r.newColumn t x := by
  simp only [newColumn, fun c : ColumnRename => sameName_congr_right ht c.table]

@[simp] lemma newColumn_of_no_columns (L : List (String × String)) (table x : String) :
    (⟨L, []⟩ : Renames).newColumn table x = x := rfl

/-! ## One more rename at the end -/

/-- A rename at the end of the list acts on what the others have made of the name. -/
lemma folded_newTable_append {P : List (String × String)} {Q : List ColumnRename}
    {p : String × String} (hnew : ∀ q ∈ P, sameName q.2 p.1 = false) (x : String) :
    folded ((⟨P ++ [p], Q⟩ : Renames).newTable x)
      = replaced (folded p.1) (folded p.2) (folded ((⟨P, Q⟩ : Renames).newTable x)) := by
  simp only [newTable, List.find?_append]
  cases h : P.find? fun p => sameName p.1 x with
  | some q =>
      rw [Option.some_or]
      exact (replaced_of_ne (folded_ne_iff.2 (hnew q (List.mem_of_find?_eq_some h)))).symm
  | none =>
      by_cases hx : sameName p.1 x = true
      · simp [hx, ← folded_eq_iff.2 hx]
      · have : folded x ≠ folded p.1 := fun he => hx (folded_eq_iff.1 he.symm)
        simp [hx, replaced_of_ne this]

lemma folded_newColumn_append {L : List (String × String)} {P : List ColumnRename}
    {c : ColumnRename}
    (hnew : ∀ q ∈ P, sameName q.table c.table = true → sameName q.new c.old = false)
    (table x : String) :
    folded ((⟨L, P ++ [c]⟩ : Renames).newColumn table x)
      = if folded table = folded c.table then
          replaced (folded c.old) (folded c.new) (folded ((⟨L, P⟩ : Renames).newColumn table x))
        else folded ((⟨L, P⟩ : Renames).newColumn table x) := by
  simp only [newColumn, List.find?_append]
  cases h : P.find? fun q => sameName q.table table && sameName q.old x with
  | some q =>
      rw [Option.some_or]
      split_ifs with ht
      · have hq : sameName q.table table = true := by
          have := List.find?_some h
          simp only [Bool.and_eq_true] at this
          exact this.1
        have hqc : sameName q.table c.table = true :=
          Text.sameName_trans hq (folded_eq_iff.1 ht)
        exact (replaced_of_ne
          (folded_ne_iff.2 (hnew q (List.mem_of_find?_eq_some h) hqc))).symm
      · rfl
  | none =>
      rw [Option.none_or]
      by_cases ht : sameName c.table table = true
      · rw [if_pos (folded_eq_iff.2 ht).symm]
        by_cases hx : sameName c.old x = true
        · simp [ht, hx, ← folded_eq_iff.2 hx]
        · have : folded x ≠ folded c.old := fun he => hx (folded_eq_iff.1 he.symm)
          simp [ht, hx, replaced_of_ne this]
      · rw [if_neg fun he => ht (folded_eq_iff.1 he.symm)]
        simp [ht]

end Renames

/-! ## The renamed table in a catalog -/

lemma TableConstraint.mapColumns_mapColumns (f g : String → String) (c : TableConstraint) :
    (c.mapColumns f).mapColumns g = c.mapColumns (g ∘ f) := by
  cases c <;> simp [TableConstraint.mapColumns]

namespace View

/-- A foreign key after the renames as a catalog holds it. -/
def renamedTarget (r : Renames) (k : ForeignKey) : String × String :=
  (folded (r.newTable k.table), folded (r.newColumn (r.newTable k.table) k.column))

lemma renamedTarget_eq (r : Renames) : renamedTarget r = fun k : ForeignKey =>
    (folded (r.newTable k.table), folded (r.newColumn (r.newTable k.table) k.column)) := rfl

/-- **A renamed table, name by name.** -/
lemma table_apply (v : View α) (r : Renames) (t : Table) (new : String) :
    v.table (r.apply t new) =
      { columns := t.columns.map fun c =>
          { name := folded (r.newColumn new c.name)
            attributes := v.attributes t c
            targets := c.references.toList.map (renamedTarget r) }
        constraints := t.constraints.map (·.mapColumns fun x => folded (r.newColumn new x)) } := by
  have hcolumns : (r.apply t new).columns = t.columns.map (r.applyToColumn new) := rfl
  have hconstraints : (r.apply t new).constraints
      = t.constraints.map (·.mapColumns (r.newColumn new)) := rfl
  simp only [table, hcolumns, hconstraints, List.map_map, Function.comp_def,
    TableConstraint.mapColumns_mapColumns, column, v.stable, CatalogTable.mk.injEq, and_true]
  refine List.map_congr_left fun c _ => ?_
  cases h : c.references with
  | none => simp [Renames.applyToColumn, h]
  | some k => simp [Renames.applyToColumn, h, target, renamedTarget, Renames.applyToReference]

/-- Without renames a table stays as it is. -/
lemma table_apply_nil (v : View α) (t : Table) (new : String) :
    v.table ((⟨[], []⟩ : Renames).apply t new) = v.table t := by
  rw [table_apply]
  simp only [table, Renames.newColumn_of_no_columns, CatalogTable.mk.injEq, and_true]
  exact List.map_congr_left fun c _ => rfl

/-- One more rename of a table, seen in another table. -/
lemma table_apply_append_table (v : View α) {P : List (String × String)} {p : String × String}
    (hnew : ∀ q ∈ P, sameName q.2 p.1 = false) (t : Table) (m n : String) :
    v.table ((⟨P ++ [p], []⟩ : Renames).apply t m)
      = (v.table ((⟨P, []⟩ : Renames).apply t n)).retargetTable (folded p.1) (folded p.2) := by
  simp only [table_apply, CatalogTable.retargetTable, List.map_map, CatalogTable.mk.injEq,
    Renames.newColumn_of_no_columns, and_true]
  refine List.map_congr_left fun c _ => ?_
  simp only [Function.comp_def, CatalogColumn.retargetTable, List.map_map, renamedTarget_eq,
    Renames.folded_newTable_append hnew, Renames.newColumn_of_no_columns]

/-- One more rename of a column, seen in the table called `n`. -/
lemma table_apply_append_column (v : View α) {L : List (String × String)} {P : List ColumnRename}
    {c : ColumnRename}
    (hnew : ∀ q ∈ P, sameName q.table c.table = true → sameName q.new c.old = false)
    (t : Table) (n : String) :
    v.table ((⟨L, P ++ [c]⟩ : Renames).apply t n)
      = Catalog.columnRenamed (folded c.table) (folded c.old) (folded c.new) (folded n)
          (v.table ((⟨L, P⟩ : Renames).apply t n)) := by
  have htable : ∀ x, (⟨L, P ++ [c]⟩ : Renames).newTable x = (⟨L, P⟩ : Renames).newTable x :=
    fun x => rfl
  simp only [table_apply, Catalog.columnRenamed, CatalogTable.retargetColumn,
    CatalogTable.renameColumn, Renames.folded_newColumn_append hnew]
  split_ifs with hn
  · simp only [List.map_map, CatalogTable.mk.injEq]
    refine ⟨List.map_congr_left fun d _ => ?_, List.map_congr_left fun d _ => by
      rw [Function.comp_apply, TableConstraint.mapColumns_mapColumns]; rfl⟩
    simp only [Function.comp_def, CatalogColumn.retargetColumn, CatalogColumn.rename, List.map_map,
      renamedTarget_eq, htable, Renames.folded_newColumn_append hnew]
  · simp only [List.map_map, CatalogTable.mk.injEq, and_true]
    refine List.map_congr_left fun d _ => ?_
    simp only [Function.comp_def, CatalogColumn.retargetColumn, List.map_map,
      renamedTarget_eq, htable, Renames.folded_newColumn_append hnew]

end View

/-! ## Running table renames

A hint is looked at by itself, against the two schemas.  Whether a whole list can be carried out is
decided by what the hints say of one another. -/

/-- Each rename by itself is possible: the old name is that of a table and the new name is free. -/
def TablesFit (tables : List Table) (renames : List (String × String)) : Prop :=
  ∀ p ∈ renames, (∃ t ∈ tables, sameName t.name p.1 = true) ∧
    ∀ t ∈ tables, sameName t.name p.2 = false

/-- No two renames share an old or a new name. -/
def TablesApart (renames : List (String × String)) : Prop :=
  renames.Pairwise fun p q => sameName p.1 q.1 = false ∧ sameName p.2 q.2 = false

instance : DecidablePred TablesApart :=
  fun renames => inferInstanceAs (Decidable (renames.Pairwise _))

lemma TablesApart.eq_of_old {L : List (String × String)} (h : TablesApart L)
    {p q : String × String} (hp : p ∈ L) (hq : q ∈ L) (hpq : sameName p.1 q.1 = true) : p = q :=
  eq_of_pairwise_not (R := fun p q : String × String => sameName p.1 q.1 = true)
    (fun _ _ => Text.sameName_symm) (h.imp fun h => by simp [h.1]) hp hq hpq

lemma TablesApart.eq_of_new {L : List (String × String)} (h : TablesApart L)
    {p q : String × String} (hp : p ∈ L) (hq : q ∈ L) (hpq : sameName p.2 q.2 = true) : p = q :=
  eq_of_pairwise_not (R := fun p q : String × String => sameName p.2 q.2 = true)
    (fun _ _ => Text.sameName_symm) (h.imp fun h => by simp [h.2]) hp hq hpq

namespace Renames

/-- A rename of the list is the one that applies to its old name. -/
lemma newTable_of_mem {r : Renames} (h : TablesApart r.tables) {p : String × String}
    (hp : p ∈ r.tables) {x : String} (hx : sameName p.1 x = true) : r.newTable x = p.2 := by
  rcases r.newTable_cases x with ⟨q, hq, hqx, hnew⟩ | ⟨hnone, -⟩
  · have hqp : sameName q.1 p.1 = true := Text.sameName_trans hqx (Text.sameName_symm hx)
    rw [hnew, h.eq_of_old hq hp hqp]
  · exact absurd hx (by simp [hnone p hp])

/-- Tables with different names have different names after the renames. -/
lemma sameName_of_newTable {r : Renames} (hfit : TablesFit tables r.tables)
    (hapart : TablesApart r.tables) {a b : Table} (ha : a ∈ tables) (hb : b ∈ tables)
    (hab : sameName (r.newTable a.name) (r.newTable b.name) = true) :
    sameName a.name b.name = true := by
  rcases r.newTable_cases a.name with ⟨p, hp, hpa, hpn⟩ | ⟨-, han⟩ <;>
    rcases r.newTable_cases b.name with ⟨q, hq, hqb, hqn⟩ | ⟨-, hbn⟩
  · rw [hpn, hqn] at hab
    obtain rfl := hapart.eq_of_new hp hq hab
    exact Text.sameName_trans (Text.sameName_symm hpa) hqb
  · rw [hpn, hbn, Text.sameName_comm] at hab
    exact absurd hab (by simp [(hfit p hp).2 b hb])
  · rw [han, hqn] at hab
    exact absurd hab (by simp [(hfit q hq).2 a ha])
  · rwa [han, hbn] at hab

lemma distinct_applyAll {r : Renames} (hd : DistinctNames tables) (hfit : TablesFit tables r.tables)
    (hapart : TablesApart r.tables) : DistinctNames (r.applyAll tables) := by
  refine List.pairwise_map.2 (hd.imp_of_mem fun {a b} ha hb hab => ?_)
  by_contra h
  have := sameName_of_newTable hfit hapart ha hb (by simpa [apply] using h)
  exact absurd this (by simp [hab])

/-- What the renamed schema holds under a name. -/
lemma of_applyAll_eq_some_iff {r : Renames} (hd : DistinctNames tables)
    (hfit : TablesFit tables r.tables) (hapart : TablesApart r.tables) {k : String}
    {e : CatalogTable α} :
    Catalog.of v (r.applyAll tables) k = some e ↔
      ∃ t ∈ tables, folded (r.newTable t.name) = k ∧ v.table (r.apply t (r.newTable t.name)) = e := by
  rw [Catalog.of_eq_some_iff (distinct_applyAll hd hfit hapart)]
  simp only [mem_applyAll]
  constructor
  · rintro ⟨-, ⟨t, ht, rfl⟩, hk, he⟩
    exact ⟨t, ht, hk, he⟩
  · rintro ⟨t, ht, hk, he⟩
    exact ⟨_, ⟨t, ht, rfl⟩, hk, he⟩

lemma of_applyAll_eq_none_iff {r : Renames} {k : String} :
    Catalog.of v (r.applyAll tables) k = none ↔ ∀ t ∈ tables, folded (r.newTable t.name) ≠ k := by
  simp [Catalog.of_eq_none_iff, applyAll, apply]

lemma of_applyAll (v : View α) (r : Renames) (tables : List Table) (k : String) :
    Catalog.of v (r.applyAll tables) k
      = (tables.find? fun t => folded (r.newTable t.name) == k).map fun t =>
          v.table (r.apply t (r.newTable t.name)) := by
  simp only [Catalog.of, applyAll, List.find?_map, Option.map_map]
  rfl

lemma of_applyAll_nil : Catalog.of v ((⟨[], []⟩ : Renames).applyAll tables) = Catalog.of v tables := by
  funext k
  simp only [of_applyAll, View.table_apply_nil]
  rfl

end Renames

section RunningTables

variable {P : List (String × String)} {p : String × String} {c : Catalog α}

/-- Where the old name of a further rename stands, it is the name of a table that has not been
renamed. -/
lemma old_apart_of_found (hfit : TablesFit tables (P ++ [p])) {t : Table}
    (hk : folded ((⟨P, []⟩ : Renames).newTable t.name) = folded p.1) :
    ∀ q ∈ P, sameName q.1 p.1 = false := by
  intro q hq
  by_contra hqp
  rw [Bool.not_eq_false] at hqp
  rcases (⟨P, []⟩ : Renames).newTable_cases t.name with ⟨q', hq', -, hnew⟩ | ⟨hnone, hself⟩
  · obtain ⟨⟨s, hs, hsp⟩, -⟩ := hfit p (by simp)
    rw [hnew, folded_eq_iff] at hk
    have := (hfit q' (by simp [hq'])).2 s hs
    rw [sameName_congr_left hsp, Text.sameName_comm, hk] at this
    exact absurd this (by decide)
  · rw [hself, folded_eq_iff] at hk
    have := hnone q hq
    rw [sameName_congr_right hk, hqp] at this
    exact absurd this (by decide)

/-- A new name that is still free is not one that an earlier rename has given. -/
lemma new_apart_of_free (hfit : TablesFit tables (P ++ [p])) (hP : TablesApart P)
    (hfree : ∀ t ∈ tables, folded ((⟨P, []⟩ : Renames).newTable t.name) ≠ folded p.2) :
    ∀ q ∈ P, sameName q.2 p.2 = false := by
  intro q hq
  obtain ⟨⟨s, hs, hsq⟩, -⟩ := hfit q (by simp [hq])
  have hnew : (⟨P, []⟩ : Renames).newTable s.name = q.2 :=
    Renames.newTable_of_mem hP hq (Text.sameName_symm hsq)
  have := hfree s hs
  rwa [hnew, folded_ne_iff] at this

/-- The old name of a rename is no name that a rename gives. -/
lemma TablesFit.new_ne_old {L : List (String × String)} (hfit : TablesFit tables L)
    {q p : String × String} (hq : q ∈ L) (hp : p ∈ L) : sameName q.2 p.1 = false := by
  obtain ⟨⟨s, hs, hsp⟩, -⟩ := hfit p hp
  have := (hfit q hq).2 s hs
  rwa [sameName_congr_left hsp, Text.sameName_comm] at this

lemma TablesFit.left {Q : List (String × String)} (hfit : TablesFit tables (P ++ Q)) :
    TablesFit tables P := fun q hq => hfit q (by simp [hq])

/-- One more rename leads to the catalog of one more rename at the end of the list. -/
lemma renameTable_applyAll (hd : DistinctNames tables) (hfit : TablesFit tables (P ++ [p]))
    (hapart : TablesApart (P ++ [p])) {e : CatalogTable α}
    (hold : Catalog.of v ((⟨P, []⟩ : Renames).applyAll tables) (folded p.1) = some e)
    (hnew : Catalog.of v ((⟨P, []⟩ : Renames).applyAll tables) (folded p.2) = none) :
    (fun k => (Function.update (Function.update
        (Catalog.of v ((⟨P, []⟩ : Renames).applyAll tables)) (folded p.1) none) (folded p.2)
        (some e) k).map (·.retargetTable (folded p.1) (folded p.2)))
      = Catalog.of v ((⟨P ++ [p], []⟩ : Renames).applyAll tables) := by
  have hP : TablesApart P := (List.pairwise_append.1 hapart).1
  have hne : ∀ q ∈ P, sameName q.2 p.1 = false :=
    fun q hq => hfit.new_ne_old (by simp [hq]) (by simp)
  have hname := Renames.folded_newTable_append (Q := []) hne
  have hentry : ∀ t : Table, v.table ((⟨P ++ [p], []⟩ : Renames).apply t
      ((⟨P ++ [p], []⟩ : Renames).newTable t.name))
        = (v.table ((⟨P, []⟩ : Renames).apply t ((⟨P, []⟩ : Renames).newTable t.name))).retargetTable
            (folded p.1) (folded p.2) := fun t => View.table_apply_append_table v hne t _ _
  obtain ⟨s, hs, hsk, rfl⟩ := (Renames.of_applyAll_eq_some_iff hd hfit.left hP).1 hold
  have hfree := Renames.of_applyAll_eq_none_iff.1 hnew
  have hpne : folded p.1 ≠ folded p.2 := fun h => hfree s hs (hsk.trans h)
  funext k
  refine Option.ext fun e => ?_
  rw [Renames.of_applyAll_eq_some_iff (r := ⟨P ++ [p], []⟩) hd hfit hapart]
  simp only [hname, hentry]
  by_cases hk2 : k = folded p.2
  · subst hk2
    simp only [Function.update_self, Option.map_some, Option.some.injEq]
    constructor
    · rintro rfl
      exact ⟨s, hs, by rw [hsk, replaced_self], rfl⟩
    · rintro ⟨t, ht, htk, rfl⟩
      by_cases htp : folded ((⟨P, []⟩ : Renames).newTable t.name) = folded p.1
      · have := Renames.sameName_of_newTable (r := ⟨P, []⟩) hfit.left hP hs ht
          (folded_eq_iff.1 (hsk.trans htp.symm))
        rw [hd.eq_of_sameName hs ht this]
      · rw [replaced_of_ne htp] at htk
        exact absurd htk (hfree t ht)
  · rw [Function.update_of_ne hk2]
    by_cases hk1 : k = folded p.1
    · subst hk1
      simp only [Function.update_self, Option.map_none, reduceCtorEq, false_iff]
      rintro ⟨t, ht, htk, -⟩
      by_cases htp : folded ((⟨P, []⟩ : Renames).newTable t.name) = folded p.1
      · rw [htp, replaced_self] at htk
        exact hpne htk.symm
      · rw [replaced_of_ne htp] at htk
        exact htp htk
    · rw [Function.update_of_ne hk1]
      simp only [Option.map_eq_some_iff]
      constructor
      · rintro ⟨e, he, rfl⟩
        obtain ⟨t, ht, rfl, rfl⟩ := (Renames.of_applyAll_eq_some_iff hd hfit.left hP).1 he
        exact ⟨t, ht, replaced_of_ne hk1, rfl⟩
      · rintro ⟨t, ht, htk, rfl⟩
        refine ⟨_, (Renames.of_applyAll_eq_some_iff hd hfit.left hP).2 ⟨t, ht, ?_, rfl⟩, rfl⟩
        by_cases htp : folded ((⟨P, []⟩ : Renames).newTable t.name) = folded p.1
        · rw [htp, replaced_self] at htk
          exact absurd htk.symm hk2
        · rwa [replaced_of_ne htp] at htk

/-- **One step of a run of table renames.** -/
lemma renameTable_of_iff (hd : DistinctNames tables) (hfit : TablesFit tables (P ++ [p]))
    (hP : TablesApart P) :
    (Catalog.of v ((⟨P, []⟩ : Renames).applyAll tables)).renameTable (folded p.1) (folded p.2)
        = some c ↔
      (∀ q ∈ P, sameName q.1 p.1 = false ∧ sameName q.2 p.2 = false) ∧
        c = Catalog.of v ((⟨P ++ [p], []⟩ : Renames).applyAll tables) := by
  rw [Catalog.renameTable_eq_some_iff]
  constructor
  · rintro ⟨e, hold, hnew, rfl⟩
    obtain ⟨t, -, htk, -⟩ := (Renames.of_applyAll_eq_some_iff hd hfit.left hP).1 hold
    have h1 := old_apart_of_found hfit htk
    have h2 := new_apart_of_free hfit hP (Renames.of_applyAll_eq_none_iff.1 hnew)
    have hapart : TablesApart (P ++ [p]) := List.pairwise_append.2
      ⟨hP, List.pairwise_singleton _ _, fun q hq q' hq' => by
        rw [List.mem_singleton.1 hq']; exact ⟨h1 q hq, h2 q hq⟩⟩
    exact ⟨fun q hq => ⟨h1 q hq, h2 q hq⟩, renameTable_applyAll hd hfit hapart hold hnew⟩
  · rintro ⟨hq, rfl⟩
    have hapart : TablesApart (P ++ [p]) := List.pairwise_append.2
      ⟨hP, List.pairwise_singleton _ _, fun q hqP q' hq' => by
        rw [List.mem_singleton.1 hq']; exact hq q hqP⟩
    obtain ⟨⟨s, hs, hsp⟩, hfree⟩ := hfit p (by simp)
    have hsname : (⟨P, []⟩ : Renames).newTable s.name = s.name := by
      rcases (⟨P, []⟩ : Renames).newTable_cases s.name with ⟨q, hqP, hqs, -⟩ | ⟨-, h⟩
      · have := (hq q hqP).1
        rw [← sameName_congr_right hsp, hqs] at this
        exact absurd this (by decide)
      · exact h
    have hold := (Renames.of_applyAll_eq_some_iff (v := v) (r := ⟨P, []⟩) hd hfit.left hP).2
      ⟨s, hs, by rw [hsname, folded_eq_iff.2 hsp], rfl⟩
    have hnew : Catalog.of v ((⟨P, []⟩ : Renames).applyAll tables) (folded p.2) = none := by
      rw [Renames.of_applyAll_eq_none_iff]
      intro t ht
      rcases (⟨P, []⟩ : Renames).newTable_cases t.name with ⟨q, hqP, -, h⟩ | ⟨-, h⟩
      · rw [h, folded_ne_iff]; exact (hq q hqP).2
      · rw [h, folded_ne_iff]; exact hfree t ht
    exact ⟨_, hold, hnew, (renameTable_applyAll hd hfit hapart hold hnew).symm⟩

lemma renameTables_from_iff (hd : DistinctNames tables) (R : List (String × String)) :
    ∀ P, TablesFit tables (P ++ R) → TablesApart P →
      ((Catalog.of v ((⟨P, []⟩ : Renames).applyAll tables)).renameTables R = some c ↔
        TablesApart (P ++ R) ∧ c = Catalog.of v ((⟨P ++ R, []⟩ : Renames).applyAll tables)) := by
  induction R with
  | nil =>
      intro P _ hP
      simp [Catalog.renameTables, hP, eq_comm]
  | cons p R ih =>
      intro P hfit hP
      have happend : P ++ p :: R = (P ++ [p]) ++ R := by simp
      rw [happend] at hfit ⊢
      have hstep := fun c => renameTable_of_iff (c := c) (v := v) hd hfit.left hP
      have hrest := fun h => ih (P ++ [p]) hfit h
      simp only [Catalog.renameTables, List.foldlM_cons, Option.bind_eq_bind,
        Option.bind_eq_some_iff] at hrest ⊢
      constructor
      · rintro ⟨c', hc', hrun⟩
        obtain ⟨hq, rfl⟩ := (hstep c').1 hc'
        have hapart : TablesApart (P ++ [p]) := List.pairwise_append.2
          ⟨hP, List.pairwise_singleton _ _, fun q hqP q' hq' => by
            rw [List.mem_singleton.1 hq']; exact hq q hqP⟩
        exact (hrest hapart).1 hrun
      · rintro ⟨hall, hc⟩
        have hapart : TablesApart (P ++ [p]) := (List.pairwise_append.1 hall).1
        have hq : ∀ q ∈ P, sameName q.1 p.1 = false ∧ sameName q.2 p.2 = false :=
          fun q hqP => (List.pairwise_append.1 hapart).2.2 q hqP p (by simp)
        exact ⟨_, (hstep _).2 ⟨hq, rfl⟩, (hrest hapart).2 ⟨hall, hc⟩⟩

/-- **Table renames can be carried out in order exactly if no two share a name, and then they do what
they do at once.** -/
theorem renameTables_of_iff {L : List (String × String)} (hd : DistinctNames tables)
    (hfit : TablesFit tables L) :
    (Catalog.of v tables).renameTables L = some c ↔
      TablesApart L ∧ c = Catalog.of v ((⟨L, []⟩ : Renames).applyAll tables) := by
  have := renameTables_from_iff (v := v) (c := c) hd L [] hfit List.Pairwise.nil
  rwa [Renames.of_applyAll_nil] at this

end RunningTables

/-! ## Running column renames

The tables have their new names by now, and the columns are looked up under them. -/

/-- Each column rename by itself is possible in its table. -/
def ColumnsFit (tables : List Table) (r : Renames) : Prop :=
  ∀ c ∈ r.columns, ∃ t ∈ tables, sameName (r.newTable t.name) c.table = true ∧
    t.hasColumn c.old = true ∧ t.hasColumn c.new = false

/-- No two renames of columns of one table share an old or a new name. -/
def ColumnsApart (renames : List ColumnRename) : Prop :=
  renames.Pairwise fun c d => sameName c.table d.table = true →
    sameName c.old d.old = false ∧ sameName c.new d.new = false

instance : DecidablePred ColumnsApart :=
  fun renames => inferInstanceAs (Decidable (renames.Pairwise _))

lemma ColumnsApart.eq_of_old {Q : List ColumnRename} (h : ColumnsApart Q) {c d : ColumnRename}
    (hc : c ∈ Q) (hd : d ∈ Q) (ht : sameName c.table d.table = true)
    (ho : sameName c.old d.old = true) : c = d := by
  refine eq_of_pairwise_not
    (R := fun c d : ColumnRename => sameName c.table d.table = true ∧ sameName c.old d.old = true)
    (fun _ _ h => ⟨Text.sameName_symm h.1, Text.sameName_symm h.2⟩)
    (h.imp fun h hcd => ?_) hc hd ⟨ht, ho⟩
  exact absurd hcd.2 (by simp [(h hcd.1).1])

lemma Table.hasColumn_iff {t : Table} {name : String} :
    t.hasColumn name = true ↔ ∃ c ∈ t.columns, sameName c.name name = true := by
  simp [Table.hasColumn, Table.column?, List.find?_isSome]

lemma Table.hasColumn_eq_false_iff {t : Table} {name : String} :
    t.hasColumn name = false ↔ ∀ c ∈ t.columns, sameName c.name name = false := by
  simp [Table.hasColumn, Table.column?, List.find?_eq_none]

/-- Whether a table has a column does not depend on how the column is spelled. -/
lemma Table.hasColumn_congr (t : Table) {a b : String} (h : sameName a b = true) :
    t.hasColumn a = t.hasColumn b := by
  simp only [Table.hasColumn, Table.column?, fun c : Column => sameName_congr_right h c.name]

namespace Renames

lemma hasColumn_apply {r : Renames} {t : Table} {n x : String} :
    (r.apply t n).hasColumn x = true ↔ ∃ c ∈ t.columns, sameName (r.newColumn n c.name) x = true := by
  simp [Table.hasColumn_iff, apply, applyToColumn]

/-- A column rename of the list is the one that applies to its old name. -/
lemma newColumn_of_mem {r : Renames} (h : ColumnsApart r.columns) {c : ColumnRename}
    (hc : c ∈ r.columns) {table x : String} (ht : sameName c.table table = true)
    (hx : sameName c.old x = true) : r.newColumn table x = c.new := by
  rcases r.newColumn_cases table x with ⟨d, hd, hdt, hdx, hnew⟩ | ⟨hnone, -⟩
  · have hdc : d = c := h.eq_of_old hd hc (Text.sameName_trans hdt (Text.sameName_symm ht))
      (Text.sameName_trans hdx (Text.sameName_symm hx))
    rw [hnew, hdc]
  · exact absurd hx (by simp [hnone c hc ht])

end Renames

section RunningColumns

variable {L : List (String × String)} {P : List ColumnRename} {c : ColumnRename} {d : Catalog α}

lemma ColumnsFit.left {Q : List ColumnRename} (h : ColumnsFit tables ⟨L, P ++ Q⟩) :
    ColumnsFit tables ⟨L, P⟩ := fun q hq => h q (by simp [hq])

/-- The renames of one table are renames of one and the same table. -/
lemma ColumnsFit.of_mem_same_table (hd : DistinctNames tables) (hfit : TablesFit tables L)
    (hapart : TablesApart L) (h : ColumnsFit tables ⟨L, P⟩) {q : ColumnRename} (hq : q ∈ P)
    {t : Table} (ht : t ∈ tables)
    (hqt : sameName ((⟨L, P⟩ : Renames).newTable t.name) q.table = true) :
    t.hasColumn q.old = true ∧ t.hasColumn q.new = false := by
  obtain ⟨s, hs, hst, hcols⟩ := h q hq
  have hname := Renames.sameName_of_newTable (r := ⟨L, P⟩) hfit hapart hs ht
    (Text.sameName_trans hst (Text.sameName_symm hqt))
  rwa [hd.eq_of_sameName hs ht hname] at hcols

/-- The old name of a rename is no name that a rename gives to a column of that table. -/
lemma ColumnsFit.new_ne_old (hd : DistinctNames tables) (hfit : TablesFit tables L)
    (hapart : TablesApart L) (h : ColumnsFit tables ⟨L, P⟩) {q c : ColumnRename} (hq : q ∈ P)
    (hc : c ∈ P) (hqc : sameName q.table c.table = true) : sameName q.new c.old = false := by
  obtain ⟨t, ht, hct, hhas, -⟩ := h c hc
  have := (ColumnsFit.of_mem_same_table (t := t) hd hfit hapart h hq ht
    (Text.sameName_trans hct (Text.sameName_symm hqc))).2
  by_contra hn
  rw [Bool.not_eq_false] at hn
  rw [t.hasColumn_congr hn, hhas] at this
  exact absurd this (by decide)

/-- Where a column rename can be carried out after others, it shares no name with them. -/
lemma column_apart_of_run (hd : DistinctNames tables) (hfit : TablesFit tables L)
    (hapart : TablesApart L) (hcols : ColumnsFit tables ⟨L, P ++ [c]⟩) (hP : ColumnsApart P)
    {t : Table} (ht : t ∈ tables)
    (hct : sameName ((⟨L, P⟩ : Renames).newTable t.name) c.table = true)
    (hold : ((⟨L, P⟩ : Renames).apply t ((⟨L, P⟩ : Renames).newTable t.name)).hasColumn c.old = true)
    (hnew : ((⟨L, P⟩ : Renames).apply t ((⟨L, P⟩ : Renames).newTable t.name)).hasColumn c.new = false)
    {q : ColumnRename} (hq : q ∈ P) (hqc : sameName q.table c.table = true) :
    sameName q.old c.old = false ∧ sameName q.new c.new = false := by
  have hqt : sameName ((⟨L, P⟩ : Renames).newTable t.name) q.table = true :=
    Text.sameName_trans hct (Text.sameName_symm hqc)
  have hhas : t.hasColumn c.old = true :=
    (ColumnsFit.of_mem_same_table hd hfit hapart hcols (by simp) ht hct).1
  constructor
  · by_contra ho
    rw [Bool.not_eq_false] at ho
    obtain ⟨x, hx, hxo⟩ := Renames.hasColumn_apply.1 hold
    rcases (⟨L, P⟩ : Renames).newColumn_cases ((⟨L, P⟩ : Renames).newTable t.name) x.name with
      ⟨q', hq', hq't, -, h⟩ | ⟨hnone, h⟩
    · have := (ColumnsFit.of_mem_same_table hd hfit hapart hcols.left hq' ht
        (Text.sameName_symm hq't)).2
      rw [h] at hxo
      rw [t.hasColumn_congr hxo, hhas] at this
      exact absurd this (by decide)
    · rw [h] at hxo
      have := hnone q hq (Text.sameName_symm hqt)
      rw [sameName_congr_right hxo, ho] at this
      exact absurd this (by decide)
  · obtain ⟨x, hx, hxo⟩ := Table.hasColumn_iff.1
      (ColumnsFit.of_mem_same_table hd hfit hapart hcols.left hq ht hqt).1
    have hto := Renames.newColumn_of_mem (r := ⟨L, P⟩) hP hq (Text.sameName_symm hqt)
      (Text.sameName_symm hxo)
    by_contra hn
    rw [Bool.not_eq_false] at hn
    have : ((⟨L, P⟩ : Renames).apply t ((⟨L, P⟩ : Renames).newTable t.name)).hasColumn c.new = true :=
      Renames.hasColumn_apply.2 ⟨x, hx, by rw [hto]; exact hn⟩
    rw [this] at hnew
    exact absurd hnew (by decide)

/-- A column rename that shares no name with those before it can be carried out after them. -/
lemma column_run_of_apart (hd : DistinctNames tables) (hfit : TablesFit tables L)
    (hapart : TablesApart L) (hcols : ColumnsFit tables ⟨L, P ++ [c]⟩)
    (hq : ∀ q ∈ P, sameName q.table c.table = true →
      sameName q.old c.old = false ∧ sameName q.new c.new = false)
    {t : Table} (ht : t ∈ tables)
    (hct : sameName ((⟨L, P⟩ : Renames).newTable t.name) c.table = true) :
    ((⟨L, P⟩ : Renames).apply t ((⟨L, P⟩ : Renames).newTable t.name)).hasColumn c.old = true ∧
      ((⟨L, P⟩ : Renames).apply t ((⟨L, P⟩ : Renames).newTable t.name)).hasColumn c.new = false := by
  obtain ⟨hhas, hfree⟩ := ColumnsFit.of_mem_same_table hd hfit hapart hcols (by simp) ht hct
  constructor
  · obtain ⟨x, hx, hxo⟩ := Table.hasColumn_iff.1 hhas
    refine Renames.hasColumn_apply.2 ⟨x, hx, ?_⟩
    rcases (⟨L, P⟩ : Renames).newColumn_cases ((⟨L, P⟩ : Renames).newTable t.name) x.name with
      ⟨q, hqP, hqt, hqx, -⟩ | ⟨-, h⟩
    · have := (hq q hqP (Text.sameName_trans hqt hct)).1
      rw [← sameName_congr_right hxo, hqx] at this
      exact absurd this (by decide)
    · rwa [h]
  · by_contra hn
    rw [Bool.not_eq_false] at hn
    obtain ⟨x, hx, hxn⟩ := Renames.hasColumn_apply.1 hn
    rcases (⟨L, P⟩ : Renames).newColumn_cases ((⟨L, P⟩ : Renames).newTable t.name) x.name with
      ⟨q, hqP, hqt, -, h⟩ | ⟨-, h⟩
    · have := (hq q hqP (Text.sameName_trans hqt hct)).2
      rw [← h, hxn] at this
      exact absurd this (by decide)
    · rw [h] at hxn
      have := Table.hasColumn_eq_false_iff.1 hfree x hx
      rw [hxn] at this
      exact absurd this (by decide)

/-- One more column rename leads to the catalog of one more rename at the end of the list. -/
lemma renameColumn_applyAll (hd : DistinctNames tables) (hfit : TablesFit tables L)
    (hapart : TablesApart L) (hcols : ColumnsFit tables ⟨L, P ++ [c]⟩) :
    (fun k => (Catalog.of v ((⟨L, P⟩ : Renames).applyAll tables) k).map
        (Catalog.columnRenamed (folded c.table) (folded c.old) (folded c.new) k))
      = Catalog.of v ((⟨L, P ++ [c]⟩ : Renames).applyAll tables) := by
  have hne : ∀ q ∈ P, sameName q.table c.table = true → sameName q.new c.old = false :=
    fun q hq => ColumnsFit.new_ne_old hd hfit hapart hcols (by simp [hq]) (by simp)
  have hname : ∀ x, (⟨L, P ++ [c]⟩ : Renames).newTable x = (⟨L, P⟩ : Renames).newTable x :=
    fun x => rfl
  funext k
  simp only [Renames.of_applyAll, hname, View.table_apply_append_column v hne, Option.map_map]
  refine Option.map_congr fun t ht => ?_
  have hk : folded ((⟨L, P⟩ : Renames).newTable t.name) = k := by simpa using List.find?_some ht
  rw [Function.comp_apply, hk]

/-- **One step of a run of column renames.** -/
lemma renameColumn_of_iff (hd : DistinctNames tables) (hfit : TablesFit tables L)
    (hapart : TablesApart L) (hcols : ColumnsFit tables ⟨L, P ++ [c]⟩) (hP : ColumnsApart P) :
    (Catalog.of v ((⟨L, P⟩ : Renames).applyAll tables)).renameColumn (folded c.table) (folded c.old)
        (folded c.new) = some d ↔
      (∀ q ∈ P, sameName q.table c.table = true →
        sameName q.old c.old = false ∧ sameName q.new c.new = false) ∧
      d = Catalog.of v ((⟨L, P ++ [c]⟩ : Renames).applyAll tables) := by
  obtain ⟨t, ht, hct, -⟩ := hcols c (by simp)
  have hentry : Catalog.of v ((⟨L, P⟩ : Renames).applyAll tables) (folded c.table)
      = some (v.table ((⟨L, P⟩ : Renames).apply t ((⟨L, P⟩ : Renames).newTable t.name))) :=
    (Renames.of_applyAll_eq_some_iff (r := ⟨L, P⟩) hd hfit hapart).2
      ⟨t, ht, folded_eq_iff.2 hct, rfl⟩
  rw [Catalog.renameColumn_eq_some_iff, hentry, renameColumn_applyAll hd hfit hapart hcols]
  simp only [Option.some.injEq, exists_eq_left', View.hasColumn_table]
  constructor
  · rintro ⟨hold, hnew, rfl⟩
    exact ⟨fun q hq hqc => column_apart_of_run hd hfit hapart hcols hP ht hct hold hnew hq hqc, rfl⟩
  · rintro ⟨hq, rfl⟩
    obtain ⟨hold, hnew⟩ := column_run_of_apart hd hfit hapart hcols hq ht hct
    exact ⟨hold, hnew, rfl⟩

lemma renameColumns_from_iff (hd : DistinctNames tables) (hfit : TablesFit tables L)
    (hapart : TablesApart L) (R : List ColumnRename) :
    ∀ P, ColumnsFit tables ⟨L, P ++ R⟩ → ColumnsApart P →
      ((Catalog.of v ((⟨L, P⟩ : Renames).applyAll tables)).renameColumns R = some d ↔
        ColumnsApart (P ++ R) ∧ d = Catalog.of v ((⟨L, P ++ R⟩ : Renames).applyAll tables)) := by
  induction R with
  | nil =>
      intro P _ hP
      simp [Catalog.renameColumns, hP, eq_comm]
  | cons c R ih =>
      intro P hcols hP
      have happend : P ++ c :: R = (P ++ [c]) ++ R := by simp
      rw [happend] at hcols ⊢
      have hstep := fun d => renameColumn_of_iff (d := d) (v := v) hd hfit hapart hcols.left hP
      have hrest := fun h => ih (P ++ [c]) hcols h
      simp only [Catalog.renameColumns, List.foldlM_cons, Option.bind_eq_bind,
        Option.bind_eq_some_iff] at hrest ⊢
      constructor
      · rintro ⟨d', hd', hrun⟩
        obtain ⟨hq, rfl⟩ := (hstep d').1 hd'
        have hall : ColumnsApart (P ++ [c]) := List.pairwise_append.2
          ⟨hP, List.pairwise_singleton _ _, fun q hqP q' hq' => by
            rw [List.mem_singleton.1 hq']; exact hq q hqP⟩
        exact (hrest hall).1 hrun
      · rintro ⟨hall, hd⟩
        have hprefix : ColumnsApart (P ++ [c]) := (List.pairwise_append.1 hall).1
        exact ⟨_, (hstep _).2
          ⟨fun q hqP => (List.pairwise_append.1 hprefix).2.2 q hqP c (by simp), rfl⟩,
          (hrest hprefix).2 ⟨hall, hd⟩⟩

/-- **Column renames can be carried out in order exactly if no two of one table share a name, and then
they do what they do at once.** -/
theorem renameColumns_of_iff {r : Renames} (hd : DistinctNames tables)
    (hfit : TablesFit tables r.tables) (hapart : TablesApart r.tables) (hcols : ColumnsFit tables r) :
    (Catalog.of v ((⟨r.tables, []⟩ : Renames).applyAll tables)).renameColumns r.columns = some d ↔
      ColumnsApart r.columns ∧ d = Catalog.of v (r.applyAll tables) := by
  have := renameColumns_from_iff (v := v) (d := d) hd hfit hapart r.columns [] hcols
    List.Pairwise.nil
  exact this

end RunningColumns

end SchemaCompiler

import SchemaCompiler.Proofs.Database.Indexes

/-!
# What a migration does to one index name

After the renames a migration has a list of actions left that take indexes away with their tables and
bring indexes of their own.  Seen from one index name little of that list is left: an index of the new
schema is brought by one action at most, and the indexes of a table are taken by one action at most.  The
final owner of the name is decided by the order of these two.

* `indexAfterAll` — an index name after a list of actions.
* `Layout.head`, `Layout.tail` — the actions of a migration up to the renames, and after them.
* `Layout.filter_brings`, `Layout.filter_takes` — the only action that brings an index, the only one that
  takes the indexes of a table.
-/

namespace SchemaCompiler.Migration

open Text (sameName folded folded_eq_iff folded_ne_iff)

/-! ## One index name under a list of actions -/

/-- The index with a name after a list of actions. -/
def indexAfterAll (k : String) (x : Option CatalogIndex) (actions : List Action) : Option CatalogIndex :=
  actions.foldl (fun x a => a.indexAfter k x) x

lemma indexAfterAll_append (k : String) (x : Option CatalogIndex) (as bs : List Action) :
    indexAfterAll k x (as ++ bs) = indexAfterAll k (indexAfterAll k x as) bs := List.foldl_append

lemma indexAfterAll_cons (k : String) (x : Option CatalogIndex) (a : Action) (as : List Action) :
    indexAfterAll k x (a :: as) = indexAfterAll k (a.indexAfter k x) as := rfl

/-- An action that takes and brings indexes and does nothing else to them. -/
def Action.Plain : Action → Prop
  | .renameTable _ _ | .renameColumn _ _ _ | .dropIndex _ => False
  | .createTable _ | .dropTable _ | .addColumn _ _ | .dropColumn _ _ | .alterTable _ _ _
  | .createIndex _ => True

lemma Action.indexAfter_of_plain {a : Action} (ha : a.Plain) (k : String) (x : Option CatalogIndex) :
    a.indexAfter k x = (x.filter fun i => !a.takes i.owner).or (a.brings k) := by
  cases a <;> first | exact ha.elim | rfl

section Plain

variable {as bs : List Action} {k : String} {i y : CatalogIndex}

lemma Action.indexAfter_none {a : Action} (ha : a.Plain) : a.indexAfter k none = a.brings k := by
  rw [indexAfter_of_plain ha]
  rfl

lemma Action.indexAfter_of_taken {a : Action} (ha : a.Plain) (h : a.takes i.owner = true) :
    a.indexAfter k (some i) = a.brings k := by
  rw [indexAfter_of_plain ha, Option.filter_some_neg (by simp [h]), Option.none_or]

lemma Action.indexAfter_of_not_taken {a : Action} (ha : a.Plain) (h : a.takes i.owner = false) :
    a.indexAfter k (some i) = some i := by
  rw [indexAfter_of_plain ha, Option.filter_some_pos (by simp [h]), Option.some_or]

/-- An index stays where nothing takes it. -/
lemma indexAfterAll_of_not_taken (hplain : ∀ a ∈ as, a.Plain)
    (h : ∀ a ∈ as, a.takes i.owner = false) : indexAfterAll k (some i) as = some i := by
  induction as with
  | nil => rfl
  | cons a rest ih =>
      rw [indexAfterAll_cons, Action.indexAfter_of_not_taken (hplain a (by simp)) (h a (by simp)),
        ih (fun b hb => hplain b (by simp [hb])) fun b hb => h b (by simp [hb])]

/-- A free name stays free where nothing brings an index of that name. -/
lemma indexAfterAll_of_not_brought (hplain : ∀ a ∈ as, a.Plain) (h : ∀ a ∈ as, a.brings k = none) :
    indexAfterAll k none as = none := by
  induction as with
  | nil => rfl
  | cons a rest ih =>
      rw [indexAfterAll_cons, Action.indexAfter_none (hplain a (by simp)), h a (by simp),
        ih (fun b hb => hplain b (by simp [hb])) fun b hb => h b (by simp [hb])]

/-- An index goes where something takes it and nothing brings another one. -/
lemma indexAfterAll_of_taken (hplain : ∀ a ∈ as, a.Plain) (h : ∀ a ∈ as, a.brings k = none)
    (htaken : ∃ a ∈ as, a.takes i.owner = true) : indexAfterAll k (some i) as = none := by
  induction as with
  | nil => simp at htaken
  | cons a rest ih =>
      have hrest : ∀ b ∈ rest, b.Plain := fun b hb => hplain b (by simp [hb])
      have hbrings : ∀ b ∈ rest, b.brings k = none := fun b hb => h b (by simp [hb])
      rw [indexAfterAll_cons]
      by_cases ha : a.takes i.owner = true
      · rw [Action.indexAfter_of_taken (hplain a (by simp)) ha, h a (by simp),
          indexAfterAll_of_not_brought hrest hbrings]
      · rw [Action.indexAfter_of_not_taken (hplain a (by simp)) (by simpa using ha)]
        refine ih hrest hbrings ?_
        obtain ⟨b, hb, hbi⟩ := htaken
        rcases List.mem_cons.1 hb with rfl | hb
        · exact absurd hbi ha
        · exact ⟨b, hb, hbi⟩

/-- Behind the action that takes an index, its name is as good as free. -/
lemma indexAfterAll_of_taken_by {a : Action} (hplain : ∀ b ∈ as ++ a :: bs, b.Plain)
    (has : ∀ b ∈ as, b.takes i.owner = false) (ha : a.takes i.owner = true) :
    indexAfterAll k (some i) (as ++ a :: bs) = indexAfterAll k none (a :: bs) := by
  have haplain : a.Plain := hplain a (by simp)
  rw [indexAfterAll_append, indexAfterAll_of_not_taken (fun b hb => hplain b (by simp [hb])) has,
    indexAfterAll_cons, indexAfterAll_cons, Action.indexAfter_of_taken haplain ha,
    Action.indexAfter_none haplain]

/-- A free name gets the index that a single action brings, unless another action takes it again. -/
lemma indexAfterAll_of_brought (hplain : ∀ a ∈ as, a.Plain) {a : Action}
    (ha : as.filter (fun a => (a.brings k).isSome) = [a]) (hy : a.brings k = some y)
    (htakes : ∀ b ∈ as, b.takes y.owner = true → b = a) :
    indexAfterAll k none as = some y := by
  obtain ⟨pre, post, rfl, hpre, -, hpost⟩ := List.filter_eq_cons_iff.1 ha
  have hpost : ∀ b ∈ post, b.brings k = none := fun b hb => by
    simpa using List.filter_eq_nil_iff.1 hpost b hb
  rw [indexAfterAll_append, indexAfterAll_of_not_brought (fun b hb => hplain b (by simp [hb]))
    fun b hb => by simpa using hpre b hb]
  rw [indexAfterAll_cons, Action.indexAfter_none (hplain a (by simp)), hy]
  refine indexAfterAll_of_not_taken (fun b hb => hplain b (by simp [hb])) fun b hb => ?_
  by_contra htaken
  rw [htakes b (by simp [hb]) (by simpa using htaken)] at hb
  rw [hpost a hb] at hy
  exact absurd hy (by simp)

end Plain

/-! ## The actions after the renames -/

variable {current target : Schema} {r : Renames}

/-- What a migration can rely on: valid schemas, and renames of tables that can be carried out. -/
structure Migratable (current target : Schema) (r : Renames) : Prop where
  current_valid : current.Valid
  target_valid : target.Valid
  fits : r.Fits current target
  apart : TablesApart r.tables

namespace Layout

variable (l : Layout current target r)

/-- The actions up to the renames. -/
def head : List Action :=
  (target.tables.flatMap fun u => (r.fate current u).goneIndexes u).map .dropIndex ++ l.renames

/-- The actions after the renames. -/
def tail : List Action :=
  l.changes ++ (target.tables.flatMap fun u => (r.fate current u).newIndexes u).map .createIndex

/-- The actions after the renames that concern one table. -/
def tailOf (u : Table) : List Action :=
  l.changesOf u ++ ((r.fate current u).newIndexes u).map .createIndex

lemma actions_eq : l.actions = l.head ++ l.tail := by
  simp only [actions, head, tail, List.append_assoc]

lemma mem_head {a : Action} (ha : a ∈ l.head) :
    (∃ i, a = .dropIndex i) ∨ (∃ p ∈ r.tables, a = .renameTable p.1 p.2) ∨
      ∃ c ∈ (r.inOrder target).columns, a = .renameColumn c.table c.old c.new := by
  simp only [head, renames, List.mem_append, List.mem_map] at ha
  rcases ha with ⟨i, -, rfl⟩ | ⟨p, hp, rfl⟩ | ⟨c, hc, rfl⟩
  · exact Or.inl ⟨i, rfl⟩
  · exact Or.inr (Or.inl ⟨p, hp, rfl⟩)
  · exact Or.inr (Or.inr ⟨c, hc, rfl⟩)

/-- Up to the renames no action takes or brings an index. -/
lemma not_plain_of_mem_head {a : Action} (ha : a ∈ l.head) : ¬ a.Plain := by
  rcases l.mem_head ha with ⟨_, rfl⟩ | ⟨_, _, rfl⟩ | ⟨_, _, rfl⟩ <;> exact id

/-- The shapes of the actions after the renames. -/
inductive Late (l : Layout current target r) : Action → Prop
  | create {u : Table} (hu : u ∈ target.tables) (hf : r.fate current u = .created) :
      Late l (.createTable u)
  | add {u : Table} (hu : u ∈ target.tables) {c : Column} (hc : c ∈ u.columns) :
      Late l (.addColumn u.name c)
  | rebuild {u : Table} (hu : u ∈ target.tables) {old : Table} (hf : r.fate current u = .rebuilt old) :
      Late l (.alterTable old u (l.dependents ⟨old, u⟩))
  | remove {u : Table} (hu : u ∈ target.tables) (c : Column) : Late l (.dropColumn u.name c)
  | drop {t : Table} (ht : t ∈ l.dropped) : Late l (.dropTable t)
  | index {u : Table} (hu : u ∈ target.tables) {i : Index} (hi : i ∈ (r.fate current u).newIndexes u) :
      Late l (.createIndex i)

lemma late_of_mem_changes {a : Action} (ha : a ∈ l.changes) : l.Late a := by
  simp only [changes, List.mem_append, List.mem_map, List.mem_flatMap] at ha
  rcases ha with (((⟨u, hu, rfl⟩ | ⟨u, hu, c, hc, rfl⟩) | ⟨b, hb, rfl⟩) | ⟨u, hu, c, -, rfl⟩)
    | ⟨t, ht, rfl⟩
  · obtain ⟨hmem, hnone⟩ := l.mem_created.1 hu
    exact .create hmem (Renames.fate_eq_created_iff.2 hnone)
  · refine .add hu ?_
    obtain ⟨old, -, hc⟩ := Fate.mem_additions_iff.1 hc
    exact (List.mem_filter.1 hc).1
  · obtain ⟨hmem, hfate⟩ := l.mem_rebuilt.1 hb
    exact .rebuild hmem hfate
  · exact .remove hu c
  · exact .drop ht

lemma late_of_mem_tail {a : Action} (ha : a ∈ l.tail) : l.Late a := by
  rcases List.mem_append.1 ha with ha | ha
  · exact l.late_of_mem_changes ha
  · obtain ⟨i, hi, rfl⟩ := List.mem_map.1 ha
    obtain ⟨u, hu, hi⟩ := List.mem_flatMap.1 hi
    exact .index hu hi

lemma plain_of_mem_tail {a : Action} (ha : a ∈ l.tail) : a.Plain := by
  cases l.late_of_mem_tail ha <;> trivial

/-- The indexes that are created by themselves are indexes of the new table. -/
lemma mem_of_newIndexes {u : Table} {i : Index} (hi : i ∈ (r.fate current u).newIndexes u) :
    i ∈ u.indexes := by
  obtain ⟨old, -, hi⟩ := Fate.mem_newIndexes_iff.1 hi
  exact (List.mem_filter.1 hi).1

lemma tail_at (hm : Migratable current target r) {u : Table} (hu : u ∈ target.tables) :
    l.tail.filter (fun a => folded a.table == folded u.name) = l.tailOf u := by
  have hnew := DistinctNames.filter_flatMap target.distinct (fun a : Action => folded a.table)
    (f := fun u => ((r.fate current u).newIndexes u).map .createIndex)
    (fun t ht a ha => by
      obtain ⟨i, hi, rfl⟩ := List.mem_map.1 ha
      exact congrArg folded ((hm.target_valid.tables t ht).owned i (mem_of_newIndexes hi))) hu
  rw [tail, List.filter_append, l.changes_at hm.fits hm.apart hu, List.map_flatMap, hnew, tailOf]

lemma tail_elsewhere (htarget : target.Valid) {k : String}
    (hk : ∀ u ∈ target.tables, folded u.name ≠ k) :
    l.tail.filter (fun a => folded a.table == k)
      = (l.dropped.filter fun t => folded t.name == k).map .dropTable := by
  have hnew : ((target.tables.flatMap fun u => (r.fate current u).newIndexes u).map
      Action.createIndex).filter (fun a => folded a.table == k) = [] :=
    List.filter_eq_nil_iff.2 fun a ha hak => by
      obtain ⟨i, hi, rfl⟩ := List.mem_map.1 ha
      obtain ⟨u, hu, hi⟩ := List.mem_flatMap.1 hi
      refine hk u hu ?_
      rw [← (htarget.tables u hu).owned i (mem_of_newIndexes hi)]
      exact beq_iff_eq.1 hak
  rw [tail, List.filter_append, l.changes_elsewhere hk, hnew, List.append_nil]

/-! ### Who brings an index -/

/-- An index that an action brings is an index of the new schema. -/
lemma exists_of_brings (htarget : target.Valid) {a : Action} (ha : a ∈ l.tail) {k : String}
    {y : CatalogIndex} (hy : a.brings k = some y) :
    ∃ u ∈ target.tables, ∃ i ∈ u.indexes, folded i.name = k ∧ i.held = y ∧
      folded a.table = folded u.name := by
  have hat : ∀ {t : Table}, t.indexAt k = some y → ∃ i ∈ t.indexes, folded i.name = k ∧ i.held = y := by
    intro t ht
    rw [Table.indexAt, Option.map_eq_some_iff] at ht
    obtain ⟨i, hi, hheld⟩ := ht
    exact ⟨i, List.mem_of_find?_eq_some hi, by simpa using List.find?_some hi, hheld⟩
  cases l.late_of_mem_tail ha with
  | create hu _ =>
      obtain ⟨i, hi, hk, hheld⟩ := hat hy
      exact ⟨_, hu, i, hi, hk, hheld, rfl⟩
  | rebuild hu _ =>
      obtain ⟨i, hi, hk, hheld⟩ := hat hy
      exact ⟨_, hu, i, hi, hk, hheld, rfl⟩
  | index hu hi =>
      simp only [Action.brings] at hy
      split_ifs at hy with hk
      have hmem := mem_of_newIndexes hi
      exact ⟨_, hu, _, hmem, hk, Option.some.inj hy,
        congrArg folded ((htarget.tables _ hu).owned _ hmem)⟩
  | add _ _ | remove _ _ | drop _ => simp [Action.brings] at hy

/-- Where the new schema has no index of a name, no action brings one. -/
lemma brings_eq_none (htarget : target.Valid) {k : String}
    (hk : ∀ u ∈ target.tables, ∀ i ∈ u.indexes, folded i.name ≠ k) {a : Action} (ha : a ∈ l.tail) :
    a.brings k = none := by
  cases hy : a.brings k with
  | none => rfl
  | some y =>
      obtain ⟨u, hu, i, hi, hik, -⟩ := l.exists_of_brings htarget ha hy
      exact absurd hik (hk u hu i hi)

/-- The action that creates an index of a table of the new schema. -/
def bringer (u : Table) (j : Index) : List Action :=
  match r.fate current u with
  | .created => [.createTable u]
  | .rebuilt old => [.alterTable old u (l.dependents ⟨old, u⟩)]
  | .inPlace old => if j ∈ indexesMissingFrom u old then [.createIndex j] else []

lemma filter_brings_eq_nil (as : List Action) (k : String) (h : ∀ a ∈ as, a.brings k = none) :
    as.filter (fun a => (a.brings k).isSome) = [] :=
  List.filter_eq_nil_iff.2 fun a ha => by simp [h a ha]

/-- An index that is created by itself is brought by its own creation. -/
lemma filter_brings_createIndex (is : List Index) (k : String) :
    (is.map Action.createIndex).filter (fun a => (a.brings k).isSome)
      = (is.filter fun i => folded i.name == k).map Action.createIndex := by
  rw [List.filter_map]
  refine congrArg _ (List.filter_congr fun i _ => ?_)
  by_cases hi : folded i.name = k <;> simp [Action.brings, hi]

/-- **An index of the new schema is brought by one action at most.** -/
theorem filter_brings (hm : Migratable current target r) {u : Table} (hu : u ∈ target.tables) {j : Index}
    (hj : j ∈ u.indexes) :
    l.tail.filter (fun a => (a.brings (folded j.name)).isSome) = l.bringer u j := by
  have hkey : ∀ a ∈ l.tail, (a.brings (folded j.name)).isSome = true →
      (folded a.table == folded u.name) = true := by
    intro a ha hsome
    obtain ⟨y, hy⟩ := Option.isSome_iff_exists.1 hsome
    obtain ⟨w, hw, i, hi, hik, -, htable⟩ := l.exists_of_brings hm.target_valid ha hy
    rw [htable, (hm.target_valid.index_unique hw hu hi hj (folded_eq_iff.1 hik)).1]
    exact beq_self_eq_true _
  have hsplit : l.tail.filter (fun a => (a.brings (folded j.name)).isSome)
      = (l.tailOf u).filter (fun a => (a.brings (folded j.name)).isSome) := by
    rw [← l.tail_at hm hu, List.filter_filter]
    exact List.filter_congr fun a ha => by
      by_cases hsome : (a.brings (folded j.name)).isSome = true
      · rw [hsome, hkey a ha hsome, Bool.and_self]
      · simp [Bool.not_eq_true _ ▸ hsome]
  have hat := Table.indexAt_of_mem (hm.target_valid.tables u hu).indexes hj
  rw [hsplit, tailOf, changesOf, bringer]
  cases hf : r.fate current u with
  | created => simp [Fate.newIndexes, Action.brings, hat]
  | rebuilt old => simp [Fate.newIndexes, Action.brings, hat]
  | inPlace old =>
      have hadds := filter_brings_eq_nil
        ((TableChange.columnsMissingFrom u old).map (Action.addColumn u.name)) (folded j.name)
        (by simp [Action.brings])
      have hdrops := filter_brings_eq_nil
        ((TableChange.columnsMissingFrom old u).map (Action.dropColumn u.name)) (folded j.name)
        (by simp [Action.brings])
      have hpair : (indexesMissingFrom u old).Pairwise fun a b => folded a.name ≠ folded b.name :=
        List.Pairwise.filter _ ((hm.target_valid.tables u hu).indexes.imp fun h heq =>
          h (Text.toLowercase_eq_of_sameName (folded_eq_iff.1 heq)))
      simp only [List.filter_append, hadds, hdrops, List.nil_append, Fate.newIndexes,
        filter_brings_createIndex]
      split_ifs with hmem
      · rw [filter_key_of_mem (fun i : Index => folded i.name) hpair hmem]
        rfl
      · rw [List.map_eq_nil_iff, List.filter_eq_nil_iff]
        intro i hi hij
        have hiu : i ∈ u.indexes := (List.mem_filter.1 hi).1
        rw [(hm.target_valid.index_unique hu hu hiu hj (folded_eq_iff.1 (beq_iff_eq.1 hij))).2] at hi
        exact hmem hi

/-! ### Who takes the indexes of a table -/

/-- An action that takes the indexes of a table is an action on that table. -/
lemma table_of_takes {a : Action} (ha : a ∈ l.tail) {o : String} (ho : a.takes o = true) :
    folded a.table = o := by
  cases l.late_of_mem_tail ha with
  | rebuild _ hf =>
      obtain ⟨t, -, rfl, -⟩ := Renames.fate_eq_rebuilt_iff.1 hf
      exact (beq_iff_eq.1 ho).symm
  | drop _ => exact (beq_iff_eq.1 ho).symm
  | create _ _ | add _ _ | remove _ _ | index _ _ => simp [Action.takes] at ho

lemma filter_takes_eq (o : String) :
    l.tail.filter (·.takes o) = (l.tail.filter fun a => folded a.table == o).filter (·.takes o) := by
  rw [List.filter_filter]
  refine List.filter_congr fun a ha => ?_
  by_cases ho : a.takes o = true
  · rw [ho, l.table_of_takes ha ho]
    simp
  · simp [Bool.not_eq_true _ ▸ ho]

/-- **The indexes of a table of the new schema are taken by its rebuild only.** -/
theorem filter_takes (hm : Migratable current target r) {u : Table} (hu : u ∈ target.tables) :
    l.tail.filter (·.takes (folded u.name)) =
      match r.fate current u with
      | .rebuilt old => [.alterTable old u (l.dependents ⟨old, u⟩)]
      | .created | .inPlace _ => [] := by
  have hcreates : (((r.fate current u).newIndexes u).map Action.createIndex).filter
      (·.takes (folded u.name)) = [] :=
    List.filter_eq_nil_iff.2 fun a ha => by
      obtain ⟨c, -, rfl⟩ := List.mem_map.1 ha
      simp [Action.takes]
  rw [filter_takes_eq, l.tail_at hm hu, tailOf, List.filter_append, hcreates,
    List.append_nil, changesOf]
  cases hf : r.fate current u with
  | created => simp [Action.takes]
  | rebuilt old =>
      obtain ⟨t, -, rfl, -⟩ := Renames.fate_eq_rebuilt_iff.1 hf
      simp [Action.takes]
  | inPlace old =>
      refine List.filter_eq_nil_iff.2 fun a ha => ?_
      rcases List.mem_append.1 ha with ha | ha <;> obtain ⟨c, -, rfl⟩ := List.mem_map.1 ha <;>
        simp [Action.takes]

/-- The indexes of other tables are taken when their table is dropped. -/
theorem filter_takes_elsewhere (htarget : target.Valid) {o : String}
    (ho : ∀ u ∈ target.tables, folded u.name ≠ o) :
    l.tail.filter (·.takes o) = (l.dropped.filter fun t => folded t.name == o).map .dropTable := by
  rw [filter_takes_eq, l.tail_elsewhere htarget ho]
  refine List.filter_eq_self.2 fun a ha => ?_
  obtain ⟨t, ht, rfl⟩ := List.mem_map.1 ha
  exact beq_iff_eq.2 (beq_iff_eq.1 (List.mem_filter.1 ht).2).symm

end Layout

end SchemaCompiler.Migration

import SchemaCompiler.Proofs.Migration.Layout

/-!
# Whose rows a rebuild reaches

When the old form of a table is dropped while foreign keys are enforced, the database deletes its rows, and
an `ON DELETE` action carries that into the tables that refer to it.  `CASCADE` deletes rows there as well, so
the next tables are reached through them, and so on.  A migration does not know which of its two schemas the
keys come from at that moment, so both count.

A rebuild names its dependents, for two purposes: someone who rolls the migration back by hand is told whose
rows to restore, and a rebuild that has any needs permission.  What is named are the tables that refer to the
rebuilt one themselves.  The second purpose is served by that, as nothing is reached without such a table.
The first is not: where a chain of references is longer, the tables behind the first one are missing.

* `Renames.RefersBy` — a table has a foreign key to another one, before or after the migration.
* `Renames.Reached` — the tables that the loss of a table's rows reaches.
* `Dependents` — what a rebuild names, and when that is all there is to name.
* **`dependents_of_compileDiff`** — every rebuild of a migration names its dependents like this.
-/

namespace SchemaCompiler

open Text (sameName)

/-- The table has a foreign key to a table of the given name, with the given action. -/
def Table.RefersTo (t : Table) (name : String) (a : OnDelete) : Prop :=
  ∃ p ∈ t.foreignKeys, sameName p.2.table name = true ∧ p.1.onDelete = a

lemma Table.refersTo_congr {t : Table} {m n : String} (h : sameName m n = true) {a : OnDelete} :
    t.RefersTo m a ↔ t.RefersTo n a := by
  simp only [Table.RefersTo, Text.sameName_congr_right h]

lemma cascadesTo_iff {t : Table} {name : String} :
    Migration.cascadesTo t name = true ↔
      sameName t.name name = false ∧ ∃ a, a.modifiesChildren = true ∧ t.RefersTo name a := by
  simp only [Migration.cascadesTo, Table.RefersTo, Bool.and_eq_true, Bool.not_eq_true', List.any_eq_true]
  refine and_congr_right fun _ => ⟨?_, ?_⟩
  · rintro ⟨p, hp, hname, ha⟩
    exact ⟨_, ha, p, hp, hname, rfl⟩
  · rintro ⟨_, ha, p, hp, hname, rfl⟩
    exact ⟨p, hp, hname, ha⟩

/-! ## What is reached -/

namespace Renames

variable {current target : Schema} {r : Renames}

/-- An old table refers to another one with an action, in its old definition or in its new one. -/
def RefersBy (current target : Schema) (r : Renames) (t p : Table) (a : OnDelete) : Prop :=
  t ∈ current.tables ∧ (t.RefersTo p.name a ∨
    ∃ u, target.table? (r.newTable t.name) = some u ∧ u.RefersTo (r.newTable p.name) a)

/-- A table is reached, by a key with the given action, when the rows of `root` are deleted: the key leads to
`root`, or to a table that is reached by a key that deletes its rows. -/
inductive Reached (current target : Schema) (r : Renames) (root : Table) : Table → OnDelete → Prop where
  | direct {t : Table} {a : OnDelete} : a.modifiesChildren = true → RefersBy current target r t root a →
      Reached current target r root t a
  | through {t p : Table} {a : OnDelete} : Reached current target r root p .cascade →
      a.modifiesChildren = true → RefersBy current target r t p a → Reached current target r root t a

/-- A table refers to another one with an action that writes to its rows. -/
def IsChild (current target : Schema) (r : Renames) (t p : Table) : Prop :=
  ∃ a, a.modifiesChildren = true ∧ RefersBy current target r t p a

lemma Reached.mem {root t : Table} {a : OnDelete} (h : Reached current target r root t a) :
    t ∈ current.tables := by
  cases h with
  | direct _ h => exact h.1
  | through _ _ h => exact h.1

/-- Nothing but the table itself is reached without another table that refers to it. -/
lemma Reached.exists_child {root t : Table} {a : OnDelete} (h : Reached current target r root t a)
    (hne : t ≠ root) : ∃ s ∈ current.tables, s ≠ root ∧ IsChild current target r s root := by
  induction h with
  | direct ha hrefers => exact ⟨_, hrefers.1, hne, _, ha, hrefers⟩
  | @through t p a _ ha hrefers ih =>
      by_cases hp : p = root
      · exact ⟨t, hrefers.1, hne, a, ha, hp ▸ hrefers⟩
      · exact ih hp

/-- All that is reached refers to the table itself, if that is so one step further on. -/
lemma Reached.isChild {root : Table}
    (hnext : ∀ p t, Reached current target r root p .cascade → t ≠ root →
      IsChild current target r t p → IsChild current target r t root)
    {t : Table} {a : OnDelete} (h : Reached current target r root t a) (hne : t ≠ root) :
    IsChild current target r t root := by
  cases h with
  | direct ha hrefers => exact ⟨a, ha, hrefers⟩
  | through hp ha hrefers => exact hnext _ _ hp hne ⟨a, ha, hrefers⟩

end Renames

namespace Migration

variable {current target : Schema} {hints : RenameHints} {allow : Bool} {version : Nat} {name : String}
  {m : Migration}

/-! ## The list of names -/

lemma exists_addName_iff {names : List String} {n x : String} :
    (∃ y ∈ addName names n, sameName y x = true) ↔
      (∃ y ∈ names, sameName y x = true) ∨ sameName n x = true := by
  unfold addName
  split_ifs with h
  · obtain ⟨y, hy, hyn⟩ := List.any_eq_true.1 h
    exact ⟨Or.inl, fun hx => hx.elim id fun hnx => ⟨y, hy, Text.sameName_trans hyn hnx⟩⟩
  · simp only [List.mem_append, List.mem_singleton, or_and_right, exists_or, exists_eq_left]

/-- Collecting names without repetition keeps every name, up to its spelling. -/
lemma exists_foldl_addName_iff {names more : List String} {x : String} :
    (∃ y ∈ more.foldl addName names, sameName y x = true) ↔
      ∃ y ∈ names ++ more, sameName y x = true := by
  induction more generalizing names with
  | nil => rw [List.foldl_nil, List.append_nil]
  | cons n more ih =>
      rw [List.foldl_cons, ih]
      simp only [List.mem_append, List.mem_cons, or_and_right, exists_or, exists_eq_left,
        exists_addName_iff, or_assoc]

lemma mem_of_mem_addName {names : List String} {n x : String} (h : x ∈ addName names n) :
    x ∈ names ∨ x = n := by
  unfold addName at h
  split_ifs at h
  · exact Or.inl h
  · simpa using h

lemma mem_of_mem_foldl_addName {names more : List String} {x : String}
    (h : x ∈ more.foldl addName names) : x ∈ names ++ more := by
  induction more generalizing names with
  | nil => simpa using h
  | cons n more ih =>
      rcases List.mem_append.1 (ih h) with hx | hx
      · rcases mem_of_mem_addName hx with hx | rfl <;> simp_all
      · simp [hx]

/-! ## What a rebuild names -/

/-- A table is named in a list under its new name. -/
def Names (r : Renames) (names : List String) (t : Table) : Prop :=
  ∃ n ∈ names, sameName n (r.newTable t.name) = true

/-- What a list has to do with the tables that are reached when the rows of `root` are deleted. -/
structure Dependents (current target : Schema) (r : Renames) (root : Table) (names : List String) :
    Prop where
  /-- Nothing else is named than tables of the old schema. -/
  old : ∀ n ∈ names, ∃ t ∈ current.tables, sameName n (r.newTable t.name) = true
  /-- The other tables that refer to `root` are named, and no others. -/
  named_iff : ∀ t ∈ current.tables, Names r names t ↔ t ≠ root ∧ Renames.IsChild current target r t root
  /-- Every other table that is reached is named exactly if the tables behind the first ones refer to `root`
  themselves. -/
  complete_iff : (∀ t a, Renames.Reached current target r root t a → t ≠ root → Names r names t) ↔
    ∀ p t, Renames.Reached current target r root p .cascade → t ≠ root →
      Renames.IsChild current target r t p → Renames.IsChild current target r t root
  /-- Nobody is named exactly if no other table is reached. -/
  eq_nil_iff : names = [] ↔ ∀ t a, Renames.Reached current target r root t a → t = root

/-- All four follow from the first two. -/
lemma Dependents.of_named_iff {r : Renames} {root : Table} {names : List String}
    (hold : ∀ n ∈ names, ∃ t ∈ current.tables, sameName n (r.newTable t.name) = true)
    (hnamed : ∀ t ∈ current.tables,
      Names r names t ↔ t ≠ root ∧ Renames.IsChild current target r t root) :
    Dependents current target r root names where
  old := hold
  named_iff := hnamed
  complete_iff := by
    constructor
    · rintro hall p t hp hne ⟨a, ha, hrefers⟩
      have := hall t a (.through hp ha hrefers) hne
      exact ((hnamed t hrefers.1).1 this).2
    · exact fun hnext t a ht hne => (hnamed t ht.mem).2 ⟨hne, ht.isChild hnext hne⟩
  eq_nil_iff := by
    constructor
    · rintro rfl t a ht
      by_contra hne
      obtain ⟨s, hs, hsne, hchild⟩ := ht.exists_child hne
      obtain ⟨n, hn, -⟩ := (hnamed s hs).2 ⟨hsne, hchild⟩
      cases hn
    · intro hroot
      refine List.eq_nil_iff_forall_not_mem.2 fun n hn => ?_
      obtain ⟨t, ht, hnt⟩ := hold n hn
      obtain ⟨hne, a, ha, hrefers⟩ := (hnamed t ht).1 ⟨n, hn, hnt⟩
      exact hne (hroot t a (.direct ha hrefers))

/-! ## The tables that a rebuild looks at -/

section

variable (r : Renames) {root u t : Table}

/-- The names that a rebuild collects, before doubles are left out: old tables by their old definitions, then
by their new ones. -/
def dependentNames (current target : Schema) (r : Renames) (new : String) : List String :=
  (current.tables.filter (cascadesTo · (r.oldTable new))).map (fun t => r.newTable t.name)
    ++ (target.tables.filter fun u => (r.source current u).isSome && cascadesTo u new).map (·.name)

lemma isCreated_eq (hu : u ∈ target.tables) :
    (!(SchemaDiff.between current target hints).created.any fun c => sameName c.name u.name)
      = ((Renames.resolve current target hints).source current u).isSome := by
  rw [SchemaDiff.created_between, Bool.eq_iff_iff, Bool.not_eq_true', List.any_eq_false]
  simp only [List.mem_filter, Option.isNone_iff_eq_none, Option.isSome_iff_ne_none, Ne]
  constructor
  · exact fun h hnone => h u ⟨hu, hnone⟩ (Text.sameName_refl _)
  · rintro h c ⟨hc, hnone⟩ hcu
    exact h (DistinctNames.eq_of_sameName target.distinct hc hu hcu ▸ hnone)

lemma dependents_eq (new : String) :
    dependents current target (SchemaDiff.between current target hints) new
      = (dependentNames current target (Renames.resolve current target hints) new).foldl addName [] := by
  have hafter : (target.tables.filter fun u =>
      (!(SchemaDiff.between current target hints).created.any fun c => sameName c.name u.name)
        && cascadesTo u new)
      = target.tables.filter fun u =>
        ((Renames.resolve current target hints).source current u).isSome && cascadesTo u new :=
    List.filter_congr fun u hu => by rw [isCreated_eq hu]
  rw [dependentNames, ← hafter]
  rfl

variable {r} (hfits : r.Fits current target) (hapart : TablesApart r.tables) {new : Table}
  (hnew : new ∈ target.tables) (hroot : r.source current new = some root)

include hfits hapart hnew hroot

/-- The name of the rebuilt table tells it from the other tables of the old schema. -/
lemma sameName_new_iff (ht : t ∈ current.tables) :
    sameName (r.newTable t.name) new.name = true ↔ t = root := by
  have hname := Renames.newTable_of_source hfits hapart hnew hroot
  refine ⟨fun h => ?_, fun h => h ▸ hname⟩
  refine DistinctNames.eq_of_sameName current.distinct ht (Renames.mem_of_source hroot).1 ?_
  exact Renames.sameName_of_newTable hfits.tablesFit hapart ht (Renames.mem_of_source hroot).1
    (Text.sameName_trans h (Text.sameName_symm hname))

omit hfits hapart hnew in
/-- An old definition counts if it refers to the rebuilt table and is not its own. -/
lemma cascadesTo_old_iff (ht : t ∈ current.tables) :
    cascadesTo t (r.oldTable new.name) = true ↔
      t ≠ root ∧ ∃ a, a.modifiesChildren = true ∧ t.RefersTo root.name a := by
  obtain ⟨hmem, hname⟩ := Renames.mem_of_source hroot
  rw [cascadesTo_iff, ← Text.sameName_congr_right hname]
  simp only [← Table.refersTo_congr hname]
  refine and_congr_left fun _ => ?_
  rw [← Bool.not_eq_true, not_iff_not]
  exact ⟨DistinctNames.eq_of_sameName current.distinct ht hmem, fun h => h ▸ Text.sameName_refl _⟩

/-- A new definition counts if it belongs to another old table and refers to the rebuilt one. -/
lemma cascadesTo_new_iff (ht : t ∈ current.tables) (hu : r.source current u = some t)
    (hmem : u ∈ target.tables) :
    cascadesTo u new.name = true ↔
      t ≠ root ∧ ∃ a, a.modifiesChildren = true ∧ u.RefersTo (r.newTable root.name) a := by
  have hname := Renames.newTable_of_source hfits hapart hnew hroot
  rw [cascadesTo_iff, ← Text.sameName_congr_left (Renames.newTable_of_source hfits hapart hmem hu),
    ← Bool.not_eq_true, sameName_new_iff hfits hapart hnew hroot ht]
  simp only [Table.refersTo_congr hname]

/-- **The names that are collected** are those of the other tables that refer to the rebuilt one. -/
lemma exists_dependentNames_iff (ht : t ∈ current.tables) :
    (∃ n ∈ dependentNames current target r new.name, sameName n (r.newTable t.name) = true) ↔
      t ≠ root ∧ Renames.IsChild current target r t root := by
  simp only [dependentNames, List.mem_append, List.mem_map, List.mem_filter, Bool.and_eq_true]
  constructor
  · rintro ⟨n, ⟨s, ⟨hs, hcascades⟩, rfl⟩ | ⟨u, ⟨hu, hsome, hcascades⟩, rfl⟩, hn⟩
    · have hst := DistinctNames.eq_of_sameName current.distinct hs ht
        (Renames.sameName_of_newTable hfits.tablesFit hapart hs ht hn)
      obtain ⟨hne, a, ha, hrefers⟩ := (cascadesTo_old_iff hroot hs).1 hcascades
      exact hst ▸ ⟨hne, a, ha, hs, Or.inl hrefers⟩
    · have hsource := (Renames.source_eq_some_iff hfits hapart hu).2 ⟨ht, Text.sameName_symm hn⟩
      obtain ⟨hne, a, ha, hrefers⟩ := (cascadesTo_new_iff hfits hapart hnew hroot ht hsource hu).1 hcascades
      exact ⟨hne, a, ha, ht, Or.inr ⟨u, Schema.table?_eq_some_iff.2 ⟨hu, hn⟩, hrefers⟩⟩
  · rintro ⟨hne, a, ha, -, hrefers | ⟨u, hu, hrefers⟩⟩
    · exact ⟨_, Or.inl ⟨t, ⟨ht, (cascadesTo_old_iff hroot ht).2 ⟨hne, a, ha, hrefers⟩⟩,
        rfl⟩, Text.sameName_refl _⟩
    · obtain ⟨hmem, hname⟩ := Schema.mem_of_table?_eq_some hu
      have hsource := (Renames.source_eq_some_iff hfits hapart hmem).2 ⟨ht, Text.sameName_symm hname⟩
      refine ⟨u.name, Or.inr ⟨u, ⟨hmem, by rw [hsource]; rfl, ?_⟩, rfl⟩, hname⟩
      exact (cascadesTo_new_iff hfits hapart hnew hroot ht hsource hmem).2 ⟨hne, a, ha, hrefers⟩

omit hnew hroot in
/-- Every name that is collected belongs to a table of the old schema. -/
lemma exists_of_mem_dependentNames {n x : String} (hn : n ∈ dependentNames current target r x) :
    ∃ t ∈ current.tables, sameName n (r.newTable t.name) = true := by
  simp only [dependentNames, List.mem_append, List.mem_map, List.mem_filter, Bool.and_eq_true] at hn
  obtain ⟨s, ⟨hs, -⟩, rfl⟩ | ⟨u, ⟨hu, hsome, -⟩, rfl⟩ := hn
  · exact ⟨s, hs, Text.sameName_refl _⟩
  · obtain ⟨s, hs⟩ := Option.isSome_iff_exists.1 hsome
    exact ⟨s, (Renames.mem_of_source hs).1,
      Text.sameName_symm (Renames.newTable_of_source hfits hapart hu hs)⟩

end

/-! ## The whole migration -/

/-- The rebuilds among the actions from one schema to another. -/
lemma mem_actionsBetween_alterTable {currentOrder targetOrder : List Table} {old new : Table}
    {names : List String}
    (h : .alterTable old new names ∈ actionsBetween current target currentOrder targetOrder
      (SchemaDiff.between current target hints)) :
    new ∈ target.tables ∧ (Renames.resolve current target hints).fate current new = .rebuilt old ∧
      names = dependents current target (SchemaDiff.between current target hints) new.name := by
  simp only [actionsBetween, List.mem_append, List.mem_map, List.mem_flatMap, reduceCtorEq, and_false,
    exists_false, or_false, false_or, rebuildAction, Action.alterTable.injEq,
    (sortByRank_perm _ _).mem_iff, SchemaDiff.rebuilds_between, List.mem_filterMap] at h
  obtain ⟨b, ⟨u, hu, hb⟩, rfl, rfl, rfl⟩ := h
  cases hf : (Renames.resolve current target hints).fate current u with
  | rebuilt old =>
      rw [hf, Fate.rebuild?, Option.some.injEq] at hb
      subst hb
      exact ⟨hu, hf, rfl⟩
  | created => simp [hf, Fate.rebuild?] at hb
  | inPlace old => simp [hf, Fate.rebuild?] at hb

/-- **What the rebuilds of a migration name.**  A rebuild replaces a table of the old schema, with the renames
applied to it, and names the other tables that refer to it in their old or their new definition.  That is
empty exactly if no rows of other tables are reached, and complete exactly if whatever is reached through
`CASCADE` refers to the rebuilt table itself. -/
theorem dependents_of_compileDiff (hapart : TablesApart hints.tables)
    (h : compileDiff allow current target hints version name = .ok m) {old new : Table}
    {names : List String} (hb : .alterTable old new names ∈ m.actions) :
    ∃ root ∈ current.tables, (Renames.resolve current target hints).apply root new.name = old ∧
      sameName ((Renames.resolve current target hints).newTable root.name) new.name = true ∧
      Dependents current target (Renames.resolve current target hints) root names := by
  obtain ⟨-, -, _, _, -, -, hactions⟩ := compileDiff_eq_ok_iff.1 h
  obtain ⟨-, -, _, _, -, -, rfl⟩ := compileActions_eq_ok_iff.1 hactions
  obtain ⟨hnew, hfate, rfl⟩ := mem_actionsBetween_alterTable hb
  obtain ⟨root, hroot, hold, -⟩ := Renames.fate_eq_rebuilt_iff.1 hfate
  have hfits := Renames.resolve_fits current target hints
  have hapart : TablesApart (Renames.resolve current target hints).tables := Renames.apart_resolve hapart
  refine ⟨root, (Renames.mem_of_source hroot).1, hold,
    Renames.newTable_of_source hfits hapart hnew hroot, .of_named_iff ?_ fun t ht => ?_⟩
  · intro n hn
    rw [dependents_eq] at hn
    have hmem := mem_of_mem_foldl_addName hn
    rw [List.nil_append] at hmem
    exact exists_of_mem_dependentNames hfits hapart hmem
  · rw [Names, dependents_eq, exists_foldl_addName_iff]
    exact exists_dependentNames_iff hfits hapart hnew hroot ht

/-- Users with a name. -/
def userTable : Table :=
  { name := "users", columns := [(Column.ofType "id" .integer).asPrimaryKey, .ofType "name" .text] }

/-- Users whose name may be missing. -/
def namelessTable : Table :=
  { name := "users",
    columns := [(Column.ofType "id" .integer).asPrimaryKey, (Column.ofType "name" .text).asNullable] }

/-- Posts, which go with their author. -/
def authoredTable : Table :=
  { name := "posts",
    columns := [(Column.ofType "id" .integer).asPrimaryKey,
      ((Column.ofType "author" .integer).referring "users" "id").withOnDelete .cascade] }

/-- Comments, which go with their post. -/
def commentTable : Table :=
  { name := "comments",
    columns := [(Column.ofType "id" .integer).asPrimaryKey,
      ((Column.ofType "post" .integer).referring "posts" "id").withOnDelete .cascade] }

/-- Users, their posts and the comments on them. -/
def forumSchema : Schema where
  tables := [userTable, authoredTable, commentTable]
  relationships := []
  distinct := by decide +kernel

/-- The same with users whose name may be missing. -/
def namelessSchema : Schema where
  tables := [namelessTable, authoredTable, commentTable]
  relationships := []
  distinct := by decide +kernel

/-- The users are rebuilt, and posts named. -/
lemma exists_forum : ∃ m, compileDiff true forumSchema namelessSchema {} 1 "nameless" = .ok m ∧
    m.actions = plainActions forumSchema namelessSchema {} := exists_compileDiff (by decide +kernel)

lemma mem_forum : .alterTable userTable namelessTable ["posts"] ∈
    plainActions forumSchema namelessSchema {} := by
  decide +kernel

/-- What the rebuild of the users names. -/
theorem forumSchema_dependents : ∃ m,
    compileDiff true forumSchema namelessSchema {} 1 "nameless" = .ok m ∧
      .alterTable userTable namelessTable ["posts"] ∈ m.actions ∧
      ∃ root ∈ forumSchema.tables,
        (Renames.resolve forumSchema namelessSchema {}).apply root "users" = userTable ∧
        sameName ((Renames.resolve forumSchema namelessSchema {}).newTable root.name) "users" = true ∧
        Dependents forumSchema namelessSchema (Renames.resolve forumSchema namelessSchema {}) root
          ["posts"] := by
  obtain ⟨m, hm, hactions⟩ := exists_forum
  have hmem : .alterTable userTable namelessTable ["posts"] ∈ m.actions := hactions ▸ mem_forum
  have hapart : TablesApart ({} : RenameHints).tables := List.Pairwise.nil
  exact ⟨m, hm, hmem, dependents_of_compileDiff hapart hm hmem⟩

/-- The comments are reached through the posts, and not named. -/
theorem forumSchema_comments_not_named : forumSchema.errors = [] ∧ namelessSchema.errors = [] ∧ ∃ m,
    compileDiff true forumSchema namelessSchema {} 1 "nameless" = .ok m ∧
      .alterTable userTable namelessTable ["posts"] ∈ m.actions ∧
      Renames.Reached forumSchema namelessSchema (Renames.resolve forumSchema namelessSchema {})
        userTable commentTable .cascade ∧
      commentTable ≠ userTable ∧
      ¬ Names (Renames.resolve forumSchema namelessSchema {}) ["posts"] commentTable := by
  obtain ⟨m, hm, hactions⟩ := exists_forum
  have hposts : authoredTable.RefersTo "users" .cascade :=
    ⟨(((Column.ofType "author" .integer).referring "users" "id").withOnDelete .cascade, ⟨"users", "id"⟩),
      by decide +kernel, by decide +kernel, rfl⟩
  have hcomments : commentTable.RefersTo "posts" .cascade :=
    ⟨(((Column.ofType "post" .integer).referring "posts" "id").withOnDelete .cascade, ⟨"posts", "id"⟩),
      by decide +kernel, by decide +kernel, rfl⟩
  refine ⟨by decide +kernel, by decide +kernel, m, hm, hactions ▸ mem_forum, ?_, by decide, ?_⟩
  · exact .through (.direct rfl ⟨by decide +kernel, Or.inl hposts⟩) rfl
      ⟨by decide +kernel, Or.inl hcomments⟩
  · rintro ⟨n, hn, hname⟩
    obtain rfl := List.mem_singleton.1 hn
    exact absurd hname (by decide +kernel)

end Migration

end SchemaCompiler

import SchemaCompiler.Proofs.Migration.IndexFate
import SchemaCompiler.Proofs.Migration.Statements

/-!
# When a migration leads to the new indexes

The statements of a migration do not always leave the indexes of the new schema behind.  An index is
created by `CREATE INDEX IF NOT EXISTS`, which does nothing where the name is taken, and a name can be
taken by an index that goes away only later: an index moves from a table that is rebuilt, or dropped, to
one that is created or rebuilt before it.  The index is then in neither place.

`compileDiff_indexes_iff` says exactly when the indexes of the new schema are there in the end.  There are
three conditions, and each can fail by itself.

* `NamesFree` — no action creates an index under a name that a later action frees.
* No table that the comparison overlooks has an index (`Overlooked`).
* No index that stays has an expression spelled like a renamed column (`Renames.LeavesExpressions`).
-/

namespace SchemaCompiler.Migration

open Text (sameName folded folded_eq_iff folded_ne_iff)
open TableChange (needsRebuild)

/-! ## The conditions -/

/-- The conditions under which the indexes of the new schema are there in the end. -/
structure IndexesReached (current target : Schema) (r : Renames) (actions : List Action) : Prop where
  /-- A table that is overlooked keeps its indexes. -/
  noticed : ∀ t, Overlooked current target r t → t.indexes = []
  free : NamesFree actions
  /-- An index that stays keeps its expressions. -/
  expressions : ∀ u ∈ target.tables, ∀ t, r.source current u = some t →
    needsRebuild (r.apply t u.name) u = false → ∀ i ∈ t.indexes,
      r.applyToIndex t.name u.name i ∈ u.indexes → r.LeavesExpressions u.name i

variable {current target : Schema} {r : Renames} {t u : Table} {i : Index} {k : String}

/-! ## The indexes in the end -/

namespace Layout

variable (l : Layout current target r)

section Reached

variable (hm : Migratable current target r)
  (h : ∀ k, indexAfterAll k (l.before k) l.tail = (Database.holding target).indexes k)

include hm h

/-- An index of a table that is overlooked would stay, on a table that the new schema does not have. -/
lemma noticed_of_indexes (ht : Overlooked current target r t) : t.indexes = [] := by
  by_contra hne
  obtain ⟨i, hi⟩ := List.exists_mem_of_ne_nil _ hne
  have hend := l.after_of_untaken hm ht.1 hi (not_dropsIndex_of_no_source ht.2.1)
    (l.filter_takes_of_overlooked hm ht)
  rw [h] at hend
  obtain ⟨u, hu, howner⟩ := owner_of_holding hm.target_valid hend
  obtain ⟨hname, hother⟩ := Renames.name_of_no_source hm.fits hm.apart ht.1 ht.2.1
  rw [Renames.heldIndex, hname] at howner
  exact folded_ne_iff.2 (hother u hu) howner

/-- An index that is brought while its name is taken would be missing. -/
lemma namesFree_of_indexes : NamesFree l.tail := by
  refine List.pairwise_iff_forall_sublist.2 fun {a b} hab i hi j hj => ?_
  have ha : a ∈ l.tail := hab.subset (by simp)
  have hb : b ∈ l.tail := hab.subset (by simp)
  by_contra hname
  rw [Bool.not_eq_false] at hname
  obtain ⟨t, -, i', -, hi', hbefore, htakes⟩ := l.exists_of_taken hm hb hj
  have hbrings := brings_isSome hi
  rw [folded_eq_iff.2 hname, ← hi'] at hbrings
  obtain ⟨hsome, a', ha'⟩ := l.filter_brings_singleton hm ha hbrings
  have hend := l.after_of_late (x := r.heldIndex (r.newTable t.name) i') ha' htakes hab hbrings
    (l.takes_of_filter htakes)
  rw [← hbefore, h] at hend
  simp [hend] at hsome

/-- An index that stays has the form that the new schema gives it. -/
lemma leavesExpressions_of_indexes (hu : u ∈ target.tables) (hs : r.source current u = some t)
    (hkept : needsRebuild (r.apply t u.name) u = false) (hi : i ∈ t.indexes)
    (hstays : r.applyToIndex t.name u.name i ∈ u.indexes) : r.LeavesExpressions u.name i := by
  have hend := l.after_of_untaken hm (Renames.mem_of_source hs).1 hi
    (not_dropsIndex_of_source hm hu hs fun _ => hstays)
    (by rw [l.filter_takes_of_source hm hu hs, if_neg (by simp [hkept])])
  have hnew : (Database.holding target).indexes (folded i.name)
      = some (r.applyToIndex t.name u.name i).held :=
    (Database.holding_indexes_eq_some_iff hm.target_valid).2 ⟨u, hu, _, hstays, rfl, rfl⟩
  rw [h, hnew, Option.some.injEq, eq_comm] at hend
  exact (heldIndex_eq_iff hm hu hs hi).1 hend

end Reached

/-- **An old index whose name is needed makes room for the new one, or is the new one.** -/
lemma after_of_reached (hm : Migratable current target r) (h : IndexesReached current target r l.actions)
    (ht : t ∈ current.tables) (hi : i ∈ t.indexes) (hdrops : ¬ DropsIndex current target r t i) :
    indexAfterAll (folded i.name) (l.before (folded i.name)) l.tail
      = (Database.holding target).indexes (folded i.name) := by
  have hfree := l.namesFree_actions_iff.1 h.free
  have hbefore := l.before_of_kept hm ht hi hdrops
  rcases l.lot_of_table ht with ⟨u, hu, hs⟩ | hd | ho
  · have htakes := l.filter_takes_of_source hm hu hs
    cases hrebuild : needsRebuild (r.apply t u.name) u with
    | true =>
        rw [if_pos hrebuild] at htakes
        rw [hbefore]
        exact l.after_of_taken hm hbefore hfree htakes
          ⟨r.applyToIndex t.name u.name i, List.mem_map_of_mem hi, rfl⟩
    | false =>
        rw [if_neg (by simp [hrebuild])] at htakes
        have hstays : r.applyToIndex t.name u.name i ∈ u.indexes := by
          by_contra hnot
          exact hdrops ⟨u, hu, hs, hrebuild, hnot⟩
        rw [l.after_of_untaken hm ht hi hdrops htakes,
          (heldIndex_eq_iff hm hu hs hi).2 (h.expressions u hu t hs hrebuild i hi hstays)]
        exact ((Database.holding_indexes_eq_some_iff hm.target_valid).2
          ⟨u, hu, _, hstays, rfl, rfl⟩).symm
  · rw [hbefore]
    exact l.after_of_taken hm hbefore hfree (l.filter_takes_of_dropped hm hd) ⟨i, hi, rfl⟩
  · rw [h.noticed t ho] at hi
    cases hi

/-- **The indexes of the new schema are there in the end exactly under the three conditions.** -/
theorem indexes_iff (hm : Migratable current target r) :
    (∀ k, indexAfterAll k (l.before k) l.tail = (Database.holding target).indexes k) ↔
      IndexesReached current target r l.actions := by
  refine ⟨fun h => ⟨fun t ht => l.noticed_of_indexes hm h ht,
    l.namesFree_actions_iff.2 (l.namesFree_of_indexes hm h),
    fun u hu t hs hkept i hi hstays => l.leavesExpressions_of_indexes hm h hu hs hkept hi hstays⟩,
    fun h k => ?_⟩
  cases hbefore : l.before k with
  | none => exact l.after_of_free hm hbefore
  | some x =>
      obtain ⟨t, ht, i, hi, rfl, hdrops, -⟩ := (l.before_eq_some_iff hm).1 hbefore
      rw [← hbefore]
      exact l.after_of_reached hm h ht hi hdrops

end Layout

/-! ## The whole migration -/

variable {hints : RenameHints} {allow : Bool} {version : Nat} {name : String} {m : Migration}
  {db : Database}

/-- **When a migration leads to the new indexes.**  If the statements of a migration run on a database that
holds the old schema, its indexes are those of the new schema in the end, with their tables, keys,
uniqueness and conditions, exactly if names are free in time, no table with an index is overlooked, and no
index that stays has an expression spelled like a renamed column. -/
theorem compileDiff_indexes_iff (hcurrent : current.errors = [])
    (h : compileDiff allow current target hints version name = .ok m)
    (hrun : (Database.holding current).execAll (m.actions.flatMap (·.up)) = some db) :
    db.indexes = (Database.holding target).indexes ↔
      IndexesReached current target (Renames.resolve current target hints) m.actions := by
  obtain ⟨htarget, -, l, hactions⟩ := layout_of_compileDiff h
  have hvalid := Schema.valid_of_errors hcurrent
  rw [hactions] at hrun ⊢
  have hm := l.migratable hvalid (Schema.valid_of_errors htarget)
    (Renames.resolve_fits current target hints) hrun
  have hindexes : ∀ k, db.indexes k = indexAfterAll k (l.before k) l.tail := by
    intro k
    rw [Layout.before, ← indexAfterAll_append, ← l.actions_eq]
    exact Database.indexes_execAll_up (Database.holding_owned hvalid) (fun a => l.keepsName) hrun k
  rw [← l.indexes_iff hm, funext_iff]
  simp only [hindexes]

/-- Posts, to be found by their title. -/
def postSchema : Schema where
  tables := [
    { name := "posts", columns := [(Column.ofType "id" .integer).asPrimaryKey, .ofType "title" .text],
      indexes := [.ofColumns "by_title" "posts" ["title"]] }]
  relationships := []
  distinct := by decide +kernel

/-- Articles, to be found by their title. -/
def articleSchema : Schema where
  tables := [
    { name := "articles", columns := [(Column.ofType "id" .integer).asPrimaryKey, .ofType "title" .text],
      indexes := [.ofColumns "by_title" "articles" ["title"]] }]
  relationships := []
  distinct := by decide +kernel

/-- Posts that are renamed to articles keep their index. -/
theorem articleSchema_indexes_of_rename : ∃ m db,
    compileDiff true postSchema articleSchema ⟨[("posts", "articles")], []⟩ 1 "articles" = .ok m ∧
      (Database.holding postSchema).execAll (m.actions.flatMap (·.up)) = some db ∧
      db.indexes = (Database.holding articleSchema).indexes := by
  obtain ⟨m, hm, hactions⟩ : ∃ m,
      compileDiff true postSchema articleSchema ⟨[("posts", "articles")], []⟩ 1 "articles" = .ok m ∧
        m.actions = plainActions postSchema articleSchema ⟨[("posts", "articles")], []⟩ := exists_compileDiff
    (by decide +kernel)
  have hrename : m.actions = [.renameTable "posts" "articles"] :=
    hactions.trans (by decide +kernel)
  obtain ⟨db, hdb⟩ := Option.isSome_iff_exists.1 (show ((Database.holding postSchema).execAll
    (m.actions.flatMap (·.up))).isSome = true by rw [hrename]; decide +kernel)
  refine ⟨m, db, hm, hdb, (compileDiff_indexes_iff (by decide +kernel) hm hdb).2 ⟨fun t ht => ?_, ?_, ?_⟩⟩
  · exact absurd ht (not_overlooked (by decide +kernel) t)
  · rw [hrename]
    decide +kernel
  · intro u _ t hs _ i hi _ hexpression
    have hplain : ∀ t ∈ postSchema.tables, ∀ i ∈ t.indexes, i.kind ≠ .expression := by decide +kernel
    exact absurd hexpression (hplain t (Renames.mem_of_source hs).1 i hi)

/-- Without a hint, the articles replace the posts. -/
lemma exists_replacement : ∃ m,
    compileDiff true postSchema articleSchema {} 1 "articles" = .ok m ∧
      m.actions = plainActions postSchema articleSchema {} := exists_compileDiff (by decide +kernel)

/-- Articles that replace posts have no index: the name is taken by the index of the posts when it is to
be created, and goes with them. -/
theorem articleSchema_indexes_of_replacement : postSchema.errors = [] ∧ articleSchema.errors = [] ∧
    ∃ m db, compileDiff true postSchema articleSchema {} 1 "articles" = .ok m ∧
      (Database.holding postSchema).execAll (m.actions.flatMap (·.up)) = some db ∧
      db.indexes ≠ (Database.holding articleSchema).indexes := by
  obtain ⟨m, hm, hactions⟩ := exists_replacement
  have hrun : (((Database.holding postSchema).execAll (m.actions.flatMap (·.up))).map
      (·.indexes "by_title")) = some none := by
    rw [hactions]
    decide +kernel
  obtain ⟨db, hdb, hnone⟩ := Option.map_eq_some_iff.1 hrun
  refine ⟨by decide +kernel, by decide +kernel, m, db, hm, hdb, fun h => ?_⟩
  have hsome : ((Database.holding articleSchema).indexes "by_title").isSome = true := by decide +kernel
  rw [← h, hnone] at hsome
  exact absurd hsome (by decide)

end SchemaCompiler.Migration

import SchemaCompiler.Proofs.Catalog.Undo
import SchemaCompiler.Proofs.Database.Actions

/-!
# Actions taken back

What a migration writes into its down section are statements again, and they have the effect of an action:
the one that takes the original back.  An action that can lose something has no such opposite; what follows
speaks of the others.

* `Action.undo` — the action that takes an action back.
* `Database.tables_down`, `Database.indexes_down` — the down statements have its effect.
* `foldlM_back` — steps that can be taken back one by one can be taken back together, the last one first.
* `runAll_undo`, `entryAll_undo` — runs of actions, and of actions on one table, taken back.
-/

namespace SchemaCompiler

open Text (sameName folded folded_eq_iff)

namespace Migration

/-- The action that takes an action back; a drop has none. -/
def Action.undo : Action → Action
  | .createTable t => .dropTable t
  | .renameTable old new => .renameTable new old
  | .addColumn table c => .dropColumn table c
  | .renameColumn table old new => .renameColumn table new old
  | .alterTable old new dependents => .alterTable new old dependents
  | .createIndex i => .dropIndex i
  | .dropTable t => .dropTable t
  | .dropColumn table c => .dropColumn table c
  | .dropIndex i => .dropIndex i

lemma Action.KeepsName.undo {a : Action} (h : a.KeepsName) : a.undo.KeepsName := by
  cases a with
  | alterTable old new dependents => exact Text.sameName_symm h
  | createTable _ | dropTable _ | renameTable _ _ | addColumn _ _ | dropColumn _ _ | renameColumn _ _ _
  | createIndex _ | dropIndex _ => trivial

/-- The down statements are the statements of the opposite action, apart from those of a new index, whose
removal passes over an index that is not there. -/
lemma Action.down_eq {a : Action} (ha : a.isDestructive = false) :
    a.down = a.undo.up ∨ ∃ i, a = .createIndex i ∧ a.down = [.dropIndex i.name true] := by
  cases a with
  | dropTable t => exact absurd ha (by simp [isDestructive])
  | dropColumn table c => exact absurd ha (by simp [isDestructive])
  | dropIndex i => exact absurd ha (by simp [isDestructive])
  | createIndex i => exact Or.inr ⟨i, rfl, rfl⟩
  | alterTable old new dependents => exact Or.inl (by simp [down, ha, undo, up])
  | createTable _ | renameTable _ _ | addColumn _ _ | renameColumn _ _ _ => exact Or.inl rfl

end Migration

/-! ## The down statements of an action -/

namespace Database

open Migration

variable {db db' : Database} {a : Action}

/-- **The indexes after the down statements of an action.** -/
theorem indexes_down (howned : db.Owned) (ha : a.isDestructive = false) (hname : a.KeepsName)
    (h : db.execAll a.down = some db') (k : String) :
    db'.indexes k = a.undo.indexAfter k (db.indexes k) := by
  rcases Action.down_eq ha with hdown | ⟨i, rfl, hdown⟩ <;> rw [hdown] at h
  · exact indexes_up howned hname.undo h k
  · rw [execAll_singleton] at h
    rw [(exec_eq_some_iff.1 h).2.2]
    rfl

/-- **The tables after the down statements of an action.** -/
theorem tables_down (howned : db.Owned) (ha : a.isDestructive = false) (hname : a.KeepsName)
    (hclosed : ∀ old new dependents, a = .alterTable old new dependents →
      db.tables.Closed ∧ (defined.table old).RefersIn db.tables)
    (h : db.execAll a.down = some db') : a.undo.run defined db.tables = some db'.tables := by
  rcases Action.down_eq ha with hdown | ⟨i, rfl, hdown⟩ <;> rw [hdown] at h
  · refine tables_up howned hname.undo (fun old new dependents hundo => ?_) h
    cases a with
    | alterTable old' new' dependents' =>
        simp only [Action.undo, Action.alterTable.injEq] at hundo
        obtain ⟨rfl, rfl, rfl⟩ := hundo
        exact hclosed _ _ _ rfl
    | createTable _ | dropTable _ | renameTable _ _ | addColumn _ _ | dropColumn _ _
    | renameColumn _ _ _ | createIndex _ | dropIndex _ => cases hundo
  · rw [execAll_singleton] at h
    exact (exec_eq_some_iff.1 h).2.1

/-- The indexes after the down statements of several actions. -/
theorem indexes_execAll_down (howned : db.Owned) {actions : List Action}
    (hsafe : ∀ a ∈ actions, a.isDestructive = false) (hname : ∀ a ∈ actions, a.KeepsName)
    (h : db.execAll (actions.flatMap (·.down)) = some db') (k : String) :
    db'.indexes k = (actions.map (·.undo)).foldl (fun x a => a.indexAfter k x) (db.indexes k) :=
  indexes_execAll howned (fun a ha _ _ howned h k =>
    indexes_down howned (hsafe a ha) (hname a ha) h k) h k

/-- The tables after the down statements of several actions, given an invariant that lets tables be
rebuilt. -/
theorem tables_execAll_down {I : Catalog Definition → Prop} (howned : db.Owned) {actions : List Action}
    (hsafe : ∀ a ∈ actions, a.isDestructive = false) (hname : ∀ a ∈ actions, a.KeepsName)
    (hstep : ∀ a ∈ actions, ∀ c d, I c → a.undo.run defined c = some d → I d)
    (hclosed : ∀ old new dependents, .alterTable old new dependents ∈ actions → ∀ c, I c →
      c.Closed ∧ (defined.table old).RefersIn c)
    (hstart : I db.tables) (h : db.execAll (actions.flatMap (·.down)) = some db') :
    runAll defined db.tables (actions.map (·.undo)) = some db'.tables ∧ I db'.tables :=
  tables_execAll howned hstep (fun a ha _ _ howned hI h => tables_down howned (hsafe a ha) (hname a ha)
    (fun old new dependents heq => hclosed old new dependents (heq ▸ ha) _ hI) h) hstart h

end Database

/-! ## Runs taken back -/

/-- Steps that can be taken back one by one can be taken back together, the last one first. -/
lemma foldlM_back {σ β : Type} {f g : σ → β → Option σ} {I : σ → Prop} {bs : List β}
    (hstep : ∀ b ∈ bs, ∀ s s', I s → f s b = some s' → I s' ∧ g s' b = some s) {s s' : σ} (hs : I s)
    (h : bs.foldlM f s = some s') : bs.reverse.foldlM g s' = some s := by
  induction bs generalizing s with
  | nil => exact congrArg some (Option.some.inj h).symm
  | cons b rest ih =>
      rw [List.foldlM_cons, Option.bind_eq_bind, Option.bind_eq_some_iff] at h
      obtain ⟨mid, hmid, hrest⟩ := h
      obtain ⟨hI, hback⟩ := hstep b (by simp) s mid hs hmid
      have hall := ih (fun b hb => hstep b (by simp [hb])) hI hrest
      rw [List.reverse_cons, List.foldlM_append, hall]
      simpa using hback

namespace Migration

variable {α : Type} {v : View α} {actions : List Action}

lemma runAll_undo {I : Catalog α → Prop} {c d : Catalog α}
    (hstep : ∀ a ∈ actions, ∀ c d, I c → a.run v c = some d → I d ∧ a.undo.run v d = some c)
    (hc : I c) (h : runAll v c actions = some d) :
    runAll v d (actions.reverse.map (·.undo)) = some c := by
  rw [runAll, List.foldlM_map]
  exact foldlM_back hstep hc h

lemma entryAll_undo {e e' : Option (CatalogTable α)}
    (hstep : ∀ a ∈ actions, ∀ e e', a.entry v e = some e' → a.undo.entry v e' = some e)
    (h : entryAll v e actions = some e') :
    entryAll v e' (actions.reverse.map (·.undo)) = some e := by
  rw [entryAll, List.foldlM_map]
  exact foldlM_back (I := fun _ => True) (fun a ha e e' _ he => ⟨trivial, hstep a ha e e' he⟩) trivial h

/-! ### Steps on one table -/

/-- A table that is created can be dropped again. -/
lemma entry_undo_createTable {e e' : Option (CatalogTable α)} (t : Table)
    (h : Action.entry v e (.createTable t) = some e') :
    Action.entry v e' (Action.undo (.createTable t)) = some e := by
  cases e with
  | none =>
      obtain rfl := Option.some.inj h
      rfl
  | some s => cases h

/-- A column that is added can be dropped again, and the columns before it keep their order. -/
lemma entry_undo_addColumn {e e' : Option (CatalogTable α)} (table : String) (c : Column)
    (h : Action.entry v e (.addColumn table c) = some e') :
    Action.entry v e' (Action.undo (.addColumn table c)) = some e := by
  obtain ⟨t, rfl, ht⟩ := Option.bind_eq_some_iff.1 h
  split_ifs at ht with hhas
  obtain rfl := Option.some.inj ht
  rw [Bool.not_eq_true] at hhas
  have hname : (v.column (.named table) c).name = folded c.name := rfl
  have hnow : (t.addColumn (v.column (.named table) c)).hasColumn (folded c.name) = true :=
    CatalogTable.hasColumn_iff.2 ⟨v.column (.named table) c, by simp [CatalogTable.addColumn], rfl⟩
  have hback := CatalogTable.dropColumn_addColumn (t := t) (c := v.column (.named table) c)
    (by rw [hname, hhas])
  rw [hname] at hback
  simp [Action.undo, Action.entry, hnow, hback]

end Migration

end SchemaCompiler

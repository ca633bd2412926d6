import Mathlib.Data.List.Forall2
import SchemaCompiler.Access.Plan
import SchemaCompiler.Proofs.Sql.Rendering

/-!
# The operations of a table as a list

`Plan.operationsOf` writes the operations out one after the other, and between them it asks whether there is
anything to update and which columns have a look-up.  Whatever is said about all operations of a table is said
here about a list: the drafts, which hold everything but the text of the statement.  Writing the operations
out is writing out each draft, in order.

* `declarations` — the record types of a plan.
* `Draft` — an operation whose statement is not yet text.
* `drafts` — those of a table.
* `operationsOf_eq_mapM` — the operations are the drafts, written out.
* `Draft.Written`, `forall₂_written` — what an operation has from its draft.
-/

namespace SchemaCompiler.Access.Plan

open Naming Text
open Sql (bind_eq_ok_iff)

variable {t : Table} {language : TargetLanguage} {o : Operation} {operations : List Operation}

/-- The record types of a plan. -/
def declarations (p : Plan) : List Declaration := [p.record, p.createInput] ++ p.updateInput.toList

/-- An operation whose statement is not yet text. -/
structure Draft where
  kind : OperationKind
  name : String
  statement : Sql.Statement
  inputs : List Parameter
  keys : List Parameter

/-- The operation with its statement written out. -/
def Draft.write (d : Draft) : Except Error Operation :=
  operation d.kind d.name d.statement d.inputs d.keys

/-- The look-up by a unique column. -/
def lookupDraft (t : Table) (language : TargetLanguage) (c : Column) : Draft :=
  ⟨.findByUnique, operationName language ("find_by_" ++ sanitized (snakeCase c.name)),
    .select t.name [c.name] [] false, [], [keyParameter language c]⟩

/-- The change of everything outside the key. -/
def updateDraft (t : Table) (language : TargetLanguage) : Draft :=
  ⟨.update, "update", .update t.name ((updatable t).map (·.name)) ((keyColumns t).map (·.name)) true,
    (updatable t).map (inputParameter language), (keyColumns t).map (keyParameter language)⟩

/-- The operations that do not depend on which columns there are besides the key. -/
def findByIdDraft (t : Table) (language : TargetLanguage) : Draft :=
  ⟨.findById, operationName language "find_by_id",
    .select t.name ((keyColumns t).map (·.name)) [] false, [], (keyColumns t).map (keyParameter language)⟩

@[inherit_doc findByIdDraft]
def findAllDraft (t : Table) (language : TargetLanguage) : Draft :=
  ⟨.findAll, operationName language "find_all",
    .select t.name [] ((keyColumns t).map (·.name)) true, [], []⟩

@[inherit_doc findByIdDraft]
def createDraft (t : Table) (language : TargetLanguage) : Draft :=
  ⟨.create, "create", .insert t.name ((insertable t).map (·.name)) true,
    (insertable t).map (inputParameter language), []⟩

@[inherit_doc findByIdDraft]
def deleteDraft (t : Table) (language : TargetLanguage) : Draft :=
  ⟨.delete, "delete", .delete t.name ((keyColumns t).map (·.name)), [],
    (keyColumns t).map (keyParameter language)⟩

/-- The operations of a table, before their statements are text. -/
def drafts (t : Table) (language : TargetLanguage) : List Draft :=
  [findByIdDraft t language, findAllDraft t language, createDraft t language]
    ++ (if (updatable t).isEmpty then [] else [updateDraft t language])
    ++ [deleteDraft t language] ++ (t.columns.filter (hasLookup t)).map (lookupDraft t language)

lemma mem_drafts_iff {d : Draft} : d ∈ drafts t language ↔
    d = findByIdDraft t language ∨ d = findAllDraft t language ∨ d = createDraft t language ∨
      (updatable t ≠ [] ∧ d = updateDraft t language) ∨ d = deleteDraft t language ∨
      ∃ c ∈ t.columns, hasLookup t c = true ∧ d = lookupDraft t language c := by
  have hupdate : d ∈ (if (updatable t).isEmpty then [] else [updateDraft t language]) ↔
      updatable t ≠ [] ∧ d = updateDraft t language := by
    split_ifs with hempty <;> simp_all
  simp only [drafts, List.mem_append, List.mem_cons, List.not_mem_nil, or_false, hupdate, List.mem_map,
    List.mem_filter, or_assoc, and_assoc, eq_comm (a := d)]

/-- What is said of all drafts, draft by draft. -/
lemma forall_drafts_iff {Q : Draft → Prop} : (∀ d ∈ drafts t language, Q d) ↔
    Q (findByIdDraft t language) ∧ Q (findAllDraft t language) ∧ Q (createDraft t language) ∧
      (updatable t ≠ [] → Q (updateDraft t language)) ∧ Q (deleteDraft t language) ∧
      ∀ c ∈ t.columns, hasLookup t c = true → Q (lookupDraft t language c) := by
  simp only [mem_drafts_iff]
  constructor
  · exact fun h => ⟨h _ (.inl rfl), h _ (.inr (.inl rfl)), h _ (.inr (.inr (.inl rfl))),
      fun hne => h _ (.inr (.inr (.inr (.inl ⟨hne, rfl⟩)))),
      h _ (.inr (.inr (.inr (.inr (.inl rfl))))),
      fun c hc hlookup => h _ (.inr (.inr (.inr (.inr (.inr ⟨c, hc, hlookup, rfl⟩)))))⟩
  · rintro ⟨hfindById, hfindAll, hcreate, hupdate, hdelete, hlookups⟩ d
      (rfl | rfl | rfl | ⟨hne, rfl⟩ | rfl | ⟨c, hc, hlookup, rfl⟩)
    exacts [hfindById, hfindAll, hcreate, hupdate hne, hdelete, hlookups c hc hlookup]

/-- **The operations are the drafts, written out.** -/
theorem operationsOf_eq_mapM (t : Table) (language : TargetLanguage) :
    operationsOf t language = (drafts t language).mapM Draft.write := by
  have hlookups : ∀ cs : List Column, (cs.map (lookupDraft t language)).mapM Draft.write =
      cs.mapM (lookupOperation t language) := fun cs => by
    rw [List.mapM_map]
    rfl
  have hsingle : ∀ x : Except Error Operation, x.map (fun o => [o]) = x >>= fun o => pure [o] :=
    fun x => by cases x <;> rfl
  rw [drafts, operationsOf]
  split_ifs with hempty
  · simp only [List.append_nil, List.mapM_append, hlookups, List.mapM_cons, List.mapM_nil, bind_assoc,
      pure_bind]
    rfl
  · simp only [hsingle, List.mapM_append, hlookups, List.mapM_cons, List.mapM_nil, bind_assoc, pure_bind]
    rfl

/-- An operation is its draft with the text of the statement. -/
structure Draft.Written (d : Draft) (o : Operation) : Prop where
  kind : o.kind = d.kind
  name : o.name = d.name
  sql : statementText d.statement = .ok o.sql
  inputs : o.inputs = d.inputs
  keys : o.keys = d.keys

lemma Draft.written_of_write {d : Draft} (h : d.write = .ok o) : d.Written o := by
  obtain ⟨sql, hsql, h⟩ := bind_eq_ok_iff.1 h
  obtain rfl := Except.ok.inj h
  exact ⟨rfl, rfl, hsql, rfl, rfl⟩

/-- **What an operation has from its draft**, for all operations of a table in their order. -/
theorem forall₂_written (h : operationsOf t language = .ok operations) :
    List.Forall₂ Draft.Written (drafts t language) operations := by
  rw [operationsOf_eq_mapM] at h
  exact List.Forall₂.imp (fun _ _ => Draft.written_of_write) (Sql.forall₂_of_mapM_eq_ok h)

lemma exists_of_forall₂ {α β : Type} {R : α → β → Prop} {as : List α} {bs : List β}
    (h : List.Forall₂ R as bs) {b : β} (hb : b ∈ bs) : ∃ a ∈ as, R a b := by
  induction h with
  | nil => cases hb
  | cons hab _ ih =>
      rcases List.mem_cons.1 hb with rfl | hb
      · exact ⟨_, List.mem_cons_self, hab⟩
      · obtain ⟨a, ha, hr⟩ := ih hb
        exact ⟨a, List.mem_cons_of_mem _ ha, hr⟩

/-- Every operation of a table is a draft, written out. -/
lemma exists_draft (h : operationsOf t language = .ok operations) (ho : o ∈ operations) :
    ∃ d ∈ drafts t language, d.Written o :=
  exists_of_forall₂ (forall₂_written h) ho

/-- What can be computed of a result is true of the result. -/
lemma exists_ok {ε α β : Type} {x : Except ε α} {f : α → β} {b : β} (h : x.toOption.map f = some b) :
    ∃ a, x = .ok a ∧ f a = b := by
  cases x with
  | error e => simp [Except.toOption] at h
  | ok a => exact ⟨a, rfl, by simpa [Except.toOption] using h⟩

section Forall₂

variable {α β : Type} {T : α → β → Prop} {as : List α} {bs : List β}

/-- Lists that correspond satisfy corresponding properties. -/
lemma forall_mem_iff_of_forall₂ {P : α → Prop} {Q : β → Prop} (hPQ : ∀ a b, T a b → (P a ↔ Q b))
    (h : List.Forall₂ T as bs) : (∀ a ∈ as, P a) ↔ ∀ b ∈ bs, Q b := by
  induction h with
  | nil => simp
  | cons hab _ ih => simp only [List.forall_mem_cons, hPQ _ _ hab, ih]

@[inherit_doc forall_mem_iff_of_forall₂]
lemma pairwise_iff_of_forall₂ {R : α → α → Prop} {S : β → β → Prop}
    (hRS : ∀ a a' b b', T a b → T a' b' → (R a a' ↔ S b b')) (h : List.Forall₂ T as bs) :
    as.Pairwise R ↔ bs.Pairwise S := by
  induction h with
  | nil => simp
  | cons hab hrest ih =>
      rw [List.pairwise_cons, List.pairwise_cons, ih,
        forall_mem_iff_of_forall₂ (fun a' b' hab' => hRS _ a' _ b' hab hab') hrest]

end Forall₂

/-- What is said of all operations of a table can be said of its drafts, unless it is about the text of the
statements. -/
lemma forall_operations_iff {P : Operation → Prop} {Q : Draft → Prop}
    (hPQ : ∀ d o, d.Written o → (P o ↔ Q d)) (h : operationsOf t language = .ok operations) :
    (∀ o ∈ operations, P o) ↔ ∀ d ∈ drafts t language, Q d :=
  (forall_mem_iff_of_forall₂ (fun d o hd => (hPQ d o hd).symm) (forall₂_written h)).symm

end SchemaCompiler.Access.Plan

import SchemaCompiler.Proofs.Access.Files

/-!
# The names that a generated function binds

A function of a repository has parameters of two kinds.  Its keys are named after columns, and the source that
it is written in adds names of its own: the pool, the input record, the limit and the offset of a page.  In
TypeScript the body declares a constant besides.  Where two of these names are equal there is no function at
all, in neither language, and nothing keeps a column from being called `pool`.

The plan looks for collisions among the fields of a record and among the names of the operations.  In Rust a
column is spelled alike as a field and as an argument, so the fields keep the arguments apart, as long as the
key does not name a column twice.  In TypeScript a field is the column's own name and an argument is not, so
`user_id` and `userId` are two fields and one argument.  Names that the source adds are compared with nothing.

* `parameterNames`, `constantNames`, `boundNames` — the names that a function binds.
* `Rendered` — the source of an operation binds them.
* `ArgumentsApart` — the arguments differ from one another and from what the source adds.
* **`boundNames_nodup_iff`** — the names differ exactly if the arguments are apart.
-/

namespace SchemaCompiler.Access

open Naming Text
open Sql (bind_eq_ok_iff)

/-! ## Names -/

/-- The parameters that come before the keys. -/
def leadingNames : TargetLanguage → List String
  | .typeScript => []
  | .rust => ["pool"]

/-- The parameters that come after the keys. -/
def trailingNames : OperationKind → List String
  | .findAll => ["limit", "offset"]
  | .create | .update => ["input"]
  | .findById | .findByUnique | .delete => []

/-- The parameters of a function, in their order. -/
def parameterNames (language : TargetLanguage) (kind : OperationKind) (keys : List String) :
    List String :=
  leadingNames language ++ keys ++ trailingNames kind

/-- The constant that the body of a method declares. -/
def constantNames : TargetLanguage → OperationKind → List String
  | .typeScript, .findAll => ["results"]
  | .typeScript, .create => ["row"]
  | .typeScript, .delete => ["result"]
  | .typeScript, .findById | .typeScript, .findByUnique | .typeScript, .update => []
  | .rust, _ => []

/-- The names that a function binds, given those of its keys. -/
def boundNames (language : TargetLanguage) (kind : OperationKind) (keys : List String) : List String :=
  parameterNames language kind keys ++ constantNames language kind

/-! ## The source of a function -/

/-- A parameter is written with its name in front, and then its type or its default. -/
inductive WrittenParameter (name : String) : String → Prop
  | typed (type : String) : WrittenParameter name (name ++ ": " ++ type)
  | defaulted (value : String) : WrittenParameter name (name ++ " = " ++ value)

/-- The statement that asks the database stands first in a method, and it may declare a constant for the
answer or for a part of it. -/
inductive OpensWith : List String → String → Prop
  | answer (rest : String) : OpensWith [] ("    return " ++ rest)
  | constant (name rest : String) : OpensWith [name] ("    const " ++ name ++ " = await " ++ rest)
  | part (name rest : String) :
      OpensWith [name] ("    const \x7b " ++ name ++ " \x7d = await " ++ rest)

/-- **The source of an operation binds the names**: the parameters stand between its parentheses, in order,
and the body of a method opens with its constant. -/
def Rendered (p : Plan) (pageSize : Nat) (o : Operation) : TargetLanguage → Prop
  | .typeScript => ∃ note parameters body,
      TypeScript.methodSource p pageSize o = note ++ "  async " ++ o.name ++ "("
        ++ ", ".intercalate parameters ++ "): Promise<" ++ TypeScript.returnType p.record.name o.kind
        ++ "> \x7b\n" ++ body ++ "  \x7d\n" ∧
      List.Forall₂ WrittenParameter (parameterNames .typeScript o.kind (o.keys.map (·.name))) parameters ∧
      OpensWith (constantNames .typeScript o.kind) body
  | .rust => ∃ note parameters,
      Rust.functionSource p o = note ++ "pub async fn " ++ o.name ++ "("
        ++ ", ".intercalate parameters ++ ") -> sqlx::Result<" ++ Rust.returnType p.record.name o.kind
        ++ "> \x7b\n" ++ Rust.bodySource p o ++ "\x7d\n" ∧
      List.Forall₂ WrittenParameter (parameterNames .rust o.kind (o.keys.map (·.name))) parameters

variable {t : Table} {language : TargetLanguage} {p : Plan} {o : Operation}

lemma OpensWith.append {names : List String} {body : String} (h : OpensWith names body) (more : String) :
    OpensWith names (body ++ more) := by
  cases h with
  | answer rest => simpa only [String.append_assoc] using OpensWith.answer (rest ++ more)
  | constant name rest => simpa only [String.append_assoc] using OpensWith.constant name (rest ++ more)
  | part name rest => simpa only [String.append_assoc] using OpensWith.part name (rest ++ more)

lemma opensWith_bodySource (p : Plan) (o : Operation) :
    OpensWith (constantNames .typeScript o.kind) (TypeScript.bodySource p o) := by
  unfold TypeScript.bodySource
  cases o.kind with
  | findById | findByUnique | update => exact (((OpensWith.answer _).append _).append _).append _
  | findAll => exact (((OpensWith.part "results" _).append _).append _).append _
  | create => exact (((((OpensWith.constant "row" _).append _).append _).append _).append _).append _
  | delete => exact (OpensWith.constant "result" _).append _

/-- A key is written with its name and a type of its own. -/
lemma forall₂_keys (type : Parameter → String) (keys : List Parameter) :
    List.Forall₂ WrittenParameter (keys.map (·.name)) (keys.map fun k => k.name ++ ": " ++ type k) :=
  List.forall₂_map_left_iff.2 (List.forall₂_map_right_iff.2
    (List.forall₂_same.2 fun k _ => .typed (type k)))

/-- Only a table that has something to update has an operation which updates, so there is an input for it. -/
lemma exists_updateInput (h : Plan.ofTable t language = .ok p) (ho : o ∈ p.operations)
    (hkind : o.kind = .update) : ∃ d, p.updateInput = some d := by
  obtain ⟨-, -, hoperations, -, hupdate⟩ := Plan.ofTable_eq_ok h
  obtain ⟨set, filter, hcolumns, -⟩ := Plan.mem_operationsOf hoperations ho
  rw [hkind] at hcolumns
  cases hcolumns with
  | update hne => exact ⟨_, by rw [hupdate, if_neg (by simpa using hne)]⟩

lemma forall₂_extraParameters_typeScript (hinput : o.kind = .update → ∃ d, p.updateInput = some d)
    (pageSize : Nat) :
    List.Forall₂ WrittenParameter (trailingNames o.kind)
      (TypeScript.extraParameters p pageSize o.kind) := by
  unfold TypeScript.extraParameters
  cases hkind : o.kind with
  | findAll => exact .cons (.defaulted (decimal pageSize)) (.cons (.defaulted "0") .nil)
  | create => exact .cons (.typed p.createInput.name) .nil
  | update =>
      obtain ⟨d, hd⟩ := hinput hkind
      rw [hd]
      exact .cons (.typed d.name) .nil
  | findById | findByUnique | delete => exact .nil

lemma forall₂_extraParameters_rust (hinput : o.kind = .update → ∃ d, p.updateInput = some d) :
    List.Forall₂ WrittenParameter (trailingNames o.kind) (Rust.extraParameters p o.kind) := by
  unfold Rust.extraParameters
  cases hkind : o.kind with
  | findAll => exact .cons (.typed "i64") (.cons (.typed "i64") .nil)
  | create => exact .cons (.typed ("&" ++ p.createInput.name)) .nil
  | update =>
      obtain ⟨d, hd⟩ := hinput hkind
      rw [hd]
      exact .cons (.typed ("&" ++ d.name)) .nil
  | findById | findByUnique | delete => exact .nil

/-- Every operation of a plan is written with the names that it binds. -/
lemma rendered_of_ofTable (h : Plan.ofTable t language = .ok p) (ho : o ∈ p.operations) (pageSize : Nat) :
    Rendered p pageSize o language := by
  have hinput := exists_updateInput h ho
  cases language with
  | typeScript =>
      exact ⟨_, _, _, rfl,
        List.rel_append (forall₂_keys _ o.keys) (forall₂_extraParameters_typeScript hinput pageSize),
        opensWith_bodySource p o⟩
  | rust =>
      exact ⟨_, _, rfl, .cons (.typed "&SqlitePool")
        (List.rel_append (forall₂_keys _ o.keys) (forall₂_extraParameters_rust hinput))⟩

/-! ## Names that differ -/

/-- The names that the source of a function adds never meet, so only the keys can. -/
lemma nodup_boundNames_iff {kind : OperationKind} {keys : List String} :
    (boundNames language kind keys).Nodup ↔
      keys.Nodup ∧ ∀ k ∈ keys, k ∉ boundNames language kind [] := by
  have hadded : (boundNames language kind []).Nodup := by
    cases language <;> cases kind <;> decide
  have hperm : (boundNames language kind keys).Perm (keys ++ boundNames language kind []) := by
    simp only [boundNames, parameterNames, List.append_nil, List.append_assoc]
    exact List.perm_append_comm_assoc _ _ _
  rw [hperm.nodup_iff, List.nodup_append]
  exact ⟨fun h => ⟨h.1, fun k hk hmem => h.2.2 k hk k hmem rfl⟩,
    fun h => ⟨h.1, hadded, fun k hk k' hk' e => h.2 k hk (e ▸ hk')⟩⟩

/-- The names that the functions with a whole key among their parameters add. -/
def reservedNames (t : Table) (language : TargetLanguage) : List String :=
  (match language with
    | .typeScript => ["result"]
    | .rust => ["pool"])
  ++ if (Plan.updatable t).isEmpty then [] else ["input"]

/-- **The arguments of a table are apart**: the columns of the key have different ones, and none of them is a
name that a function adds. -/
structure ArgumentsApart (t : Table) (language : TargetLanguage) : Prop where
  keys : ((Plan.keyColumns t).map fun c => argumentName c.name language).Nodup
  reserved : ∀ c ∈ Plan.keyColumns t, argumentName c.name language ∉ reservedNames t language
  /-- A function that looks a row up by a unique column adds the pool at most. -/
  lookups : ∀ c ∈ t.columns, Plan.hasLookup t c = true →
    argumentName c.name language ∉ leadingNames language

/-- What a name must not be in order to differ from all that a function with a whole key adds. -/
lemma notMem_reservedNames_iff {name : String} : name ∉ reservedNames t language ↔
    name ∉ boundNames language .findById [] ∧
      (Plan.updatable t ≠ [] → name ∉ boundNames language .update []) ∧
      name ∉ boundNames language .delete [] := by
  by_cases hempty : Plan.updatable t = [] <;> cases language <;>
    simp [hempty, reservedNames, boundNames, parameterNames, leadingNames, trailingNames, constantNames,
      and_comm]

/-- **The operations of a table bind different names** exactly if its arguments are apart. -/
lemma forall_drafts_nodup_iff :
    (∀ d ∈ Plan.drafts t language, (boundNames language d.kind (d.keys.map (·.name))).Nodup) ↔
      ArgumentsApart t language := by
  have hkeys : ((Plan.keyColumns t).map (Plan.keyParameter language)).map (·.name) =
      (Plan.keyColumns t).map fun c => argumentName c.name language := by
    rw [List.map_map]
    rfl
  have hwhole : ∀ kind,
      (boundNames language kind ((Plan.keyColumns t).map fun c => argumentName c.name language)).Nodup ↔
        ((Plan.keyColumns t).map fun c => argumentName c.name language).Nodup ∧
          ∀ c ∈ Plan.keyColumns t, argumentName c.name language ∉ boundNames language kind [] :=
            fun kind => by
    rw [nodup_boundNames_iff, List.forall_mem_map]
  have hnone : ∀ kind, (boundNames language kind []).Nodup := fun kind => nodup_boundNames_iff.2 (by simp)
  have hlookup : ∀ c : Column, (boundNames language .findByUnique [argumentName c.name language]).Nodup ↔
      argumentName c.name language ∉ leadingNames language := fun c => by
    rw [nodup_boundNames_iff]
    cases language <;> simp [boundNames, parameterNames, trailingNames, constantNames]
  rw [Plan.forall_drafts_iff]
  simp only [Plan.findByIdDraft, Plan.findAllDraft, Plan.createDraft, Plan.updateDraft, Plan.deleteDraft,
    Plan.lookupDraft, Plan.keyParameter, hkeys, hwhole, List.map_nil, List.map_cons, hnone, hlookup,
    true_and]
  constructor
  · rintro ⟨⟨hnodup, hfound⟩, hupdate, ⟨-, hdeleted⟩, hlookups⟩
    exact ⟨hnodup, fun c hc => notMem_reservedNames_iff.2
      ⟨hfound c hc, fun hne => (hupdate hne).2 c hc, hdeleted c hc⟩, hlookups⟩
  · rintro ⟨hnodup, hreserved, hlookups⟩
    have hapart := fun c hc => notMem_reservedNames_iff.1 (hreserved c hc)
    exact ⟨⟨hnodup, fun c hc => (hapart c hc).1⟩, fun hne => ⟨hnodup, fun c hc => (hapart c hc).2.1 hne⟩,
      ⟨hnodup, fun c hc => (hapart c hc).2.2⟩, hlookups⟩

/-! ## Keys in Rust -/

/-- The names of the columns are spelled differently in Rust. -/
lemma nodup_arguments_rust (h : Plan.ofTable t .rust = .ok p) :
    (t.columns.map fun c => argumentName c.name .rust).Nodup := by
  obtain ⟨-, hrecord, -⟩ := Plan.ofTable_eq_ok h
  obtain ⟨_, hfields, -⟩ := bind_eq_ok_iff.1 hrecord
  have hnames : (t.columns.map (fieldOf .rust)).map (·.name) =
      t.columns.map fun c => argumentName c.name .rust := by
    rw [List.map_map]
    exact List.map_congr_left fun c _ => by rw [Function.comp_apply, fieldOf, argumentName]
  rw [hnames] at hfields
  simpa only [Bool.false_eq_true, if_false, List.map_id] using nodup_of_refuseConflict hfields

/-- **In Rust the columns of a key have different arguments** exactly if the key names no column twice. -/
lemma nodup_keys_rust_iff (hvalid : t.Valid) (h : Plan.ofTable t .rust = .ok p) :
    ((Plan.keyColumns t).map fun c => argumentName c.name .rust).Nodup ↔
      t.primaryKey.Pairwise fun a b => sameName a b = false := by
  have hspelled := List.inj_on_of_nodup_map (nodup_arguments_rust h)
  rw [List.Nodup, List.pairwise_map]
  refine (Plan.pairwise_iff_of_forall₂ (fun a b c d hc hd => ?_) (Table.keyColumns_resolve hvalid)).symm
  have hmem : c ∈ t.columns ∧ d ∈ t.columns :=
    ⟨List.mem_of_find?_eq_some hc, List.mem_of_find?_eq_some hd⟩
  have hsame : sameName c.name a = true ∧ sameName d.name b = true :=
    ⟨by simpa using List.find?_some hc, by simpa using List.find?_some hd⟩
  rw [← Bool.not_eq_true, not_iff_not]
  constructor
  · intro hab
    have hcb := Table.column?_of_mem hvalid.columns hmem.1 (sameName_trans hsame.1 hab)
    rw [Option.some.inj (hcb.symm.trans hd)]
  · intro hcd
    obtain rfl := hspelled hmem.1 hmem.2 hcd
    exact sameName_trans (sameName_symm hsame.1) hsame.2

/-! ## Apart or not -/

/-- **The names that a function binds** are in its source.  The functions of a table without faults bind
different names exactly if the arguments of the table are apart.  That the columns of the key have different
ones is sure in Rust unless the key names a column twice. -/
theorem boundNames_nodup_iff (herrors : t.errors = []) (h : Plan.ofTable t language = .ok p) :
    (∀ o ∈ p.operations, ∀ pageSize, Rendered p pageSize o language) ∧
    ((∀ o ∈ p.operations, (boundNames language o.kind (o.keys.map (·.name))).Nodup) ↔
      ArgumentsApart t language) ∧
    (language = .rust → (((Plan.keyColumns t).map fun c => argumentName c.name language).Nodup ↔
      t.primaryKey.Pairwise fun a b => sameName a b = false)) := by
  obtain ⟨-, -, hoperations, -⟩ := Plan.ofTable_eq_ok h
  refine ⟨fun o ho => rendered_of_ofTable h ho, ?_, ?_⟩
  · exact (Plan.forall_operations_iff (fun d o hd => by rw [hd.kind, hd.keys]) hoperations).trans
      forall_drafts_nodup_iff
  · rintro rfl
    exact nodup_keys_rust_iff (Table.valid_of_errors herrors) h

/-- The functions of a table whose arguments are apart. -/
theorem seatTable_names_apart : Plan.seatTable.errors = [] ∧
    ∃ p, Plan.ofTable Plan.seatTable .typeScript = .ok p ∧
      ∀ o ∈ p.operations, (boundNames .typeScript o.kind (o.keys.map (·.name))).Nodup := by
  have herrors : Plan.seatTable.errors = [] := by decide +kernel
  obtain ⟨p, hp, -⟩ := Plan.exists_ok (x := Plan.ofTable Plan.seatTable .typeScript)
    (f := fun p => p.operations.length) (b := 6) (by decide +kernel)
  refine ⟨herrors, p, hp, (boundNames_nodup_iff herrors hp).2.1.2 ⟨?_, ?_, ?_⟩⟩
  all_goals decide +kernel

/-- A table whose key is called like what it is looked up in. -/
def poolTable : Table where
  name := "pools"
  columns := [{ name := "pool", scalarType := .text, primaryKey := true }]

/-- A table whose key has two columns that are one word in two spellings. -/
def aliasTable : Table where
  name := "aliases"
  columns := [
    { name := "user_id", scalarType := .integer },
    { name := "userId", scalarType := .integer }]
  constraints := [.primaryKey ["user_id", "userId"]]

/-- A table whose key is called like the constant for what came of a deletion. -/
def resultTable : Table where
  name := "results"
  columns := [{ name := "result", scalarType := .integer, primaryKey := true }]

/-- **Functions that cannot be**: with two parameters `pool`, with two parameters `userId`, and with a
parameter and a constant `result`. -/
theorem poolTable_names_meet :
    (poolTable.errors = [] ∧ ∃ p, Plan.ofTable poolTable .rust = .ok p ∧
      ∃ o ∈ p.operations, ¬ (boundNames .rust o.kind (o.keys.map (·.name))).Nodup) ∧
    (aliasTable.errors = [] ∧ ∃ p, Plan.ofTable aliasTable .typeScript = .ok p ∧
      ∃ o ∈ p.operations, ¬ (boundNames .typeScript o.kind (o.keys.map (·.name))).Nodup) ∧
    (resultTable.errors = [] ∧ ∃ p, Plan.ofTable resultTable .typeScript = .ok p ∧
      ∃ o ∈ p.operations, ¬ (boundNames .typeScript o.kind (o.keys.map (·.name))).Nodup) := by
  have hmeets : ∀ (t : Table) (language : TargetLanguage),
      (Plan.ofTable t language).toOption.map (fun p =>
        p.operations.any fun o => !decide (boundNames language o.kind (o.keys.map (·.name))).Nodup) =
          some true →
      ∃ p, Plan.ofTable t language = .ok p ∧
        ∃ o ∈ p.operations, ¬ (boundNames language o.kind (o.keys.map (·.name))).Nodup :=
    fun t language h => by
      obtain ⟨p, hp, hany⟩ := Plan.exists_ok h
      obtain ⟨o, ho, hnames⟩ := List.any_eq_true.1 hany
      exact ⟨p, hp, o, ho, by simpa using hnames⟩
  exact ⟨⟨by decide +kernel, hmeets _ _ (by decide +kernel)⟩,
    ⟨by decide +kernel, hmeets _ _ (by decide +kernel)⟩,
    ⟨by decide +kernel, hmeets _ _ (by decide +kernel)⟩⟩

end SchemaCompiler.Access

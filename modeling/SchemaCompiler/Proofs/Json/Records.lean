import Mathlib.Data.List.Basic
import SchemaCompiler.Json.Decode
import SchemaCompiler.Proofs.Json.RoundTrip
import SchemaCompiler.Schema.Encoding

/-!
# Records read back

A record is written with its fields in the order of the record and read from an object whose fields are in
the order of their keys; some fields are not written at all.  What the reader of a field meets depends
therefore only on what was written last under the name, if anything was (`field_kept`).

The lemmas below carry single values through that: text, flags, variants, lists, and values that are left
out when they are absent.  The proof for a record puts them together and has nothing else to say, in
whatever order its fields stand.

* `Json.Reads` — a reader that undoes a writer.
* `Json.readBack` — what is read from a field that may not have been written.
-/

namespace SchemaCompiler.Json

/-! ## Fields of objects -/

lemma lookup_cons_ite {α : Type} (name : String) (f : String × α) (fields : List (String × α)) :
    (f :: fields).lookup name = if name = f.1 then some f.2 else fields.lookup name := by
  obtain ⟨k, v⟩ := f
  by_cases h : name = k
  · simp [h]
  · simp [List.lookup_cons, beq_false_of_ne h, h]

lemma lookup_insertField {α : Type} (key name : String) (value : α) (fields : List (String × α)) :
    (insertField key value fields).lookup name =
      if name = key then some value else fields.lookup name := by
  induction fields with
  | nil => rw [insertField, lookup_cons_ite]
  | cons f fields ih =>
      obtain ⟨k, v⟩ := f
      unfold insertField
      by_cases hlt : key < k
      · rw [if_pos hlt, lookup_cons_ite]
      · rw [if_neg hlt]
        by_cases hkey : k = key
        · rw [if_pos hkey, lookup_cons_ite, lookup_cons_ite, hkey]
          split_ifs <;> rfl
        · rw [if_neg hkey, lookup_cons_ite, lookup_cons_ite, ih]
          split_ifs with hname hname'
          · exact absurd (hname.symm.trans hname') hkey
          · rfl
          · rfl
          · rfl

/-- The last of several fields with one name is kept. -/
lemma lookup_sortFields {α : Type} (name : String) (fields : List (String × α)) :
    (sortFields fields).lookup name = fields.reverse.lookup name := by
  have h : ∀ sorted : List (String × α),
      (fields.foldl (fun sorted f => insertField f.1 f.2 sorted) sorted).lookup name
        = (fields.reverse.lookup name).or (sorted.lookup name) := by
    induction fields with
    | nil => simp
    | cons f fields ih =>
        intro sorted
        rw [List.foldl_cons, ih, lookup_insertField, List.reverse_cons, List.lookup_append,
          Option.or_assoc, lookup_cons_ite]
        split_ifs <;> rfl
  exact (h []).trans Option.or_none

lemma lookup_map_canonical (name : String) (fields : Fields) :
    (fields.map fun f => (f.1, f.2.canonical)).lookup name = (fields.lookup name).map canonical := by
  induction fields with
  | nil => rfl
  | cons f fields ih =>
      rw [List.map_cons, lookup_cons_ite, lookup_cons_ite, ih]
      split_ifs <;> rfl

lemma lookup_kept (name : String) (fields : Fields) :
    (kept fields).lookup name = (fields.reverse.lookup name).map canonical := by
  rw [kept, lookup_sortFields, ← List.map_reverse, lookup_map_canonical]

/-- What is read from a field, as it was written if it was. -/
def readBack {α : Type} (decode : Decoder α) : Option Json → Except DecodeError (Option α)
  | some j => (decode j.canonical).map some
  | none => .ok none

lemma field_kept {α : Type} (fields : Fields) (name : String) (decode : Decoder α) :
    field (kept fields) name decode = readBack decode (fields.reverse.lookup name) := by
  rw [field, lookup_kept]
  cases fields.reverse.lookup name <;> rfl

/-! ## Fields that may be left out -/

@[simp] lemma lookup_optionalField {α : Type} (key name : String) (encode : α → Json) (x : Option α) :
    (optionalField key encode x).reverse.lookup name = if name = key then x.map encode else none := by
  cases x with
  | none => simp [optionalField]
  | some a => rw [optionalField, List.reverse_singleton, lookup_cons_ite]; rfl

@[simp] lemma lookup_optionalList {α : Type} (key name : String) (encode : α → Json) (xs : List α) :
    (optionalList key encode xs).reverse.lookup name =
      if name = key then if xs = [] then none else some (.array (xs.map encode)) else none := by
  cases xs with
  | nil => simp [optionalList]
  | cons a xs => simp [optionalList, lookup_cons_ite]

@[simp] lemma getD_map_some {α : Type} (x : Option α) : (x.map some).getD none = x := by
  cases x <;> rfl

/-- A value that is left out when it is the default is the default when it is missing. -/
@[simp] lemma getD_unlessDefault {α : Type} [DecidableEq α] (x fallback : α) :
    (if x = fallback then none else some x).getD fallback = x := by
  split_ifs with h
  · exact h.symm
  · rfl

@[simp] lemma ok_bind {ε α β : Type} (x : α) (f : α → Except ε β) : (Except.ok x >>= f) = f x := rfl

@[simp] lemma map_ok {ε α β : Type} (f : α → β) (x : α) :
    f <$> (Except.ok x : Except ε α) = .ok (f x) := rfl

@[simp] lemma required_some {α : Type} (name : String) (x : α) : required name (some x) = .ok x := rfl

/-! ## Readers that undo writers -/

/-- A reader finds what was written. -/
def Reads {α : Type} (decode : Decoder α) (encode : α → Json) : Prop :=
  ∀ x, decode (encode x).canonical = .ok x

section Reads

variable {α : Type} {decode : Decoder α} {encode : α → Json}

lemma reads_text : Reads asText .string := fun _ => rfl

lemma Reads.asList (h : Reads decode encode) :
    Reads (asList decode) fun xs => .array (xs.map encode) := by
  intro xs
  rw [canonical_array, Json.asList]
  induction xs with
  | nil => rfl
  | cons x xs ih =>
      rw [List.map_cons, List.map_cons, List.mapM_cons, h x, ih]
      rfl

lemma Reads.asOptional (h : Reads decode encode) (hnull : ∀ x, (encode x).canonical ≠ .null) (x : α) :
    asOptional decode (encode x).canonical = .ok (some x) := by
  rw [Json.asOptional.eq_2 _ _ (hnull x), h x]
  rfl

lemma readBack_some (h : Reads decode encode) (x : α) :
    readBack decode (some (encode x)) = .ok (some x) := by
  rw [readBack, h x]
  rfl

lemma readBack_optional (h : Reads decode encode) (hnull : ∀ x, (encode x).canonical ≠ .null)
    (x : Option α) : readBack (asOptional decode) (x.map encode) = .ok (x.map some) := by
  cases x with
  | none => rfl
  | some a =>
      rw [Option.map_some, readBack, h.asOptional hnull a]
      rfl

lemma readBack_list (h : Reads decode encode) (xs : List α) :
    readBack (asList decode) (some (.array (xs.map encode))) = .ok (some xs) :=
  readBack_some h.asList xs

lemma readBack_optionalList [DecidableEq α] (h : Reads decode encode) (xs : List α) :
    readBack (asList decode) (if xs = [] then none else some (.array (xs.map encode)))
      = .ok (if xs = [] then none else some xs) := by
  split_ifs
  · rfl
  · exact readBack_list h xs

end Reads

@[simp] lemma readBack_text (s : String) : readBack asText (some (.string s)) = .ok (some s) := rfl

@[simp] lemma readBack_flag (b : Bool) : readBack asFlag (some (.bool b)) = .ok (some b) := rfl

@[simp] lemma readBack_optionalText (s : Option String) :
    readBack (asOptional asText) (s.map .string) = .ok (s.map some) :=
  readBack_optional reads_text (fun _ => Json.noConfusion) s

@[simp] lemma readBack_names (xs : List String) :
    readBack (asList asText) (some (names xs)) = .ok (some xs) := readBack_list reads_text xs

lemma readBack_variant {α : Type} {variants : List (String × α)} {key : α → String}
    (h : ∀ v, variants.lookup (key v) = some v) (v : α) :
    readBack (asVariant variants) (some (.string (key v))) = .ok (some v) := by
  simp [readBack, asVariant, variantNamed, h v, Except.map]

/-! ## Values without numbers -/

/-- Fields whose values hold no numbers and open no more than `depth` brackets inside each other. -/
def PlainFields (depth : Nat) (fields : Fields) : Prop := ∀ f ∈ fields, Plain depth f.2

section Plain

variable {depth : Nat} {fields more : Fields}

@[simp] lemma plain_bool (b : Bool) : Plain depth (.bool b) := .bool b

@[simp] lemma plain_string (s : String) : Plain depth (.string s) := .string s

@[simp] lemma plain_object_iff : Plain (depth + 1) (.object fields) ↔ PlainFields depth fields :=
  ⟨fun | .object values => values, .object⟩

@[simp] lemma plainFields_nil : PlainFields depth [] := List.forall_mem_nil _

@[simp] lemma plainFields_cons {f : String × Json} :
    PlainFields depth (f :: fields) ↔ Plain depth f.2 ∧ PlainFields depth fields :=
  List.forall_mem_cons

@[simp] lemma plainFields_append :
    PlainFields depth (fields ++ more) ↔ PlainFields depth fields ∧ PlainFields depth more :=
  List.forall_mem_append

variable {α : Type} {encode : α → Json}

lemma plain_array_map (h : ∀ x, Plain depth (encode x)) (xs : List α) :
    Plain (depth + 1) (.array (xs.map encode)) :=
  .array fun j hj => by
    obtain ⟨x, -, rfl⟩ := List.mem_map.1 hj
    exact h x

@[simp] lemma plain_names (xs : List String) : Plain (depth + 1) (names xs) :=
  plain_array_map plain_string xs

lemma plainFields_optionalField (h : ∀ x, Plain depth (encode x)) (key : String) (x : Option α) :
    PlainFields depth (optionalField key encode x) := by
  cases x with
  | none => exact plainFields_nil
  | some a => simpa [optionalField] using h a

lemma plainFields_optionalList (h : ∀ x, Plain depth (encode x)) (key : String) (xs : List α) :
    PlainFields (depth + 1) (optionalList key encode xs) := by
  unfold optionalList
  split_ifs
  · exact plainFields_nil
  · simpa using plain_array_map h xs

end Plain

end SchemaCompiler.Json

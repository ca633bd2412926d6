import SchemaCompiler.Proofs.Json.Records

/-!
# Keys of objects

What is written between brackets holds each of its parts as it was written.  The keys of objects are written
like strings, but a reader may want more of them.

* `Json.subset_spread` — parts between brackets.
* `Json.Keyed`, `Json.KeyedFields` — values in which something holds of the keys of all objects.
-/

namespace SchemaCompiler.Json

/-! ## Parts -/

/-- Parts stand in what is spread out between brackets as they are. -/
lemma subset_spread {part : List Char} {parts : List (List Char)} (h : part ∈ parts) (opening closing : Char)
    (level : Nat) : part ⊆ spread opening closing level parts := by
  have hclose : ∀ {parts : List (List Char)}, part ∈ parts → part ⊆ closeSpread closing level parts := by
    intro parts h
    induction parts with
    | nil => cases h
    | cons next parts ih =>
        rw [closeSpread]
        refine List.subset_cons_of_subset _ (List.subset_append_of_subset_right _ ?_)
        rcases List.mem_cons.1 h with rfl | h
        · exact List.subset_append_left ..
        · exact List.subset_append_of_subset_right _ (ih h)
  cases parts with
  | nil => cases h
  | cons first parts =>
      rw [spread_cons]
      refine List.subset_cons_of_subset _ (List.subset_append_of_subset_right _ ?_)
      rcases List.mem_cons.1 h with rfl | h
      · exact List.subset_append_left ..
      · exact List.subset_append_of_subset_right _ (hclose h)

lemma prettyItems_eq_map (level : Nat) (xs : List Json) :
    prettyItems level xs = xs.map (prettyChars level) := by
  induction xs with
  | nil => rfl
  | cons x xs ih => rw [prettyItems, ih, List.map_cons]

lemma prettyFields_eq_map (level : Nat) (fields : List (String × Json)) :
    prettyFields level fields =
      fields.map fun f => literalChars f.1 ++ ':' :: ' ' :: f.2.prettyChars level := by
  induction fields with
  | nil => rfl
  | cons f fields ih => rw [prettyFields, ih, List.map_cons]

/-! ## Keys -/

/-- A value in which something holds of the keys of all objects. -/
inductive Keyed (p : String → Prop) : Json → Prop
  | null : Keyed p .null
  | bool (b : Bool) : Keyed p (.bool b)
  | string (s : String) : Keyed p (.string s)
  | array {xs : List Json} (items : ∀ x ∈ xs, Keyed p x) : Keyed p (.array xs)
  | object {fields : List (String × Json)} (keys : ∀ f ∈ fields, p f.1)
      (values : ∀ f ∈ fields, Keyed p f.2) : Keyed p (.object fields)

/-- Fields with keys of which something holds, and so with their values. -/
def KeyedFields (p : String → Prop) (fields : Fields) : Prop := ∀ f ∈ fields, p f.1 ∧ Keyed p f.2

section Keyed

variable {p : String → Prop} {fields more : Fields}

@[simp] lemma keyed_bool (b : Bool) : Keyed p (.bool b) := .bool b

@[simp] lemma keyed_string (s : String) : Keyed p (.string s) := .string s

@[simp] lemma keyed_object_iff : Keyed p (.object fields) ↔ KeyedFields p fields :=
  ⟨fun | .object keys values => fun f hf => ⟨keys f hf, values f hf⟩,
    fun h => .object (fun f hf => (h f hf).1) fun f hf => (h f hf).2⟩

@[simp] lemma keyedFields_nil : KeyedFields p [] := List.forall_mem_nil _

@[simp] lemma keyedFields_cons {f : String × Json} :
    KeyedFields p (f :: fields) ↔ (p f.1 ∧ Keyed p f.2) ∧ KeyedFields p fields :=
  List.forall_mem_cons

@[simp] lemma keyedFields_append :
    KeyedFields p (fields ++ more) ↔ KeyedFields p fields ∧ KeyedFields p more :=
  List.forall_mem_append

variable {α : Type} {encode : α → Json}

lemma keyed_array_map (h : ∀ x, Keyed p (encode x)) (xs : List α) : Keyed p (.array (xs.map encode)) :=
  .array fun j hj => by
    obtain ⟨x, -, rfl⟩ := List.mem_map.1 hj
    exact h x

@[simp] lemma keyed_names (xs : List String) : Keyed p (names xs) := keyed_array_map keyed_string xs

lemma keyedFields_optionalField {key : String} (hkey : p key) (h : ∀ x, Keyed p (encode x)) (x : Option α) :
    KeyedFields p (optionalField key encode x) := by
  cases x with
  | none => exact keyedFields_nil
  | some a => simpa [optionalField] using ⟨hkey, h a⟩

lemma keyedFields_optionalList {key : String} (hkey : p key) (h : ∀ x, Keyed p (encode x)) (xs : List α) :
    KeyedFields p (optionalList key encode xs) := by
  unfold optionalList
  split_ifs
  · exact keyedFields_nil
  · simpa using ⟨hkey, keyed_array_map h xs⟩

end Keyed

end SchemaCompiler.Json

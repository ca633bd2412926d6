import SchemaCompiler.Proofs.Access.Parameters
import SchemaCompiler.Proofs.Text.WordCase

/-!
# Names that a language accepts

Every name in access code comes from the name of a table or of a column, which may be any text.  Spelling it
in one of the three ways leaves letters and digits, cleaning it puts an underscore in front of a digit, and
a reserved word is marked as raw in Rust and gets an ending in TypeScript.  The names of types are spelled
without being cleaned.

* `WellShaped` — letters, digits and underscores, with no number in front.
* `Written` — a name of this shape that is not reserved, or one that is reserved and marked as raw.
* `Legal` — a name that a language accepts: it is not empty either, and not a word that no mark makes free.
* `Spellable` — a column whose name has a letter or digit and is not such a word.
* `legal_argumentName`, `legal_recordName`, `legal_createInput`, `legal_updateInput`, `legal_operationName` —
  what becomes of a name.
* `Named` — the names in the code of a table.
* **`generate_identifiers`** — the names in generated code.

The name of a method may be a reserved word of TypeScript, and the method that deletes is called by one.
-/

namespace SchemaCompiler.Access

open Naming Text
open Sql (bind_eq_ok_iff)

variable {language : TargetLanguage} {name column : String}

/-! ## Identifiers -/

/-- The shape of an identifier. -/
structure WellShaped (name : String) : Prop where
  chars : ∀ c ∈ name.toList, isAlphanumeric c = true ∨ c = '_'
  head : ∀ c, name.toList.head? = some c → isNumeric c = false

/-- The shape of a name can be computed, character by character. -/
lemma wellShaped_iff : WellShaped name ↔ (name.toList.all (fun c => isAlphanumeric c || c == '_') &&
    name.toList.head?.all fun c => !isNumeric c) = true := by
  simp only [Bool.and_eq_true, List.all_eq_true, Option.all_eq_true, Bool.or_eq_true, beq_iff_eq,
    Bool.not_eq_true']
  exact ⟨fun h => ⟨h.chars, h.head⟩, fun h => ⟨h.1, h.2⟩⟩

instance (name : String) : Decidable (WellShaped name) := decidable_of_iff _ wellShaped_iff.symm

/-- The reserved words of a language. -/
def reservedWords : TargetLanguage → List String
  | .typeScript => typeScriptKeywords
  | .rust => rustKeywords

@[simp] lemma isTypeScriptKeyword_iff :
    isTypeScriptKeyword name = true ↔ name ∈ reservedWords .typeScript := by
  rw [isTypeScriptKeyword, List.contains_iff_mem, reservedWords]

@[simp] lemma isRustKeyword_iff : isRustKeyword name = true ↔ name ∈ reservedWords .rust := by
  rw [isRustKeyword, List.contains_iff_mem, reservedWords]

/-- A name is written as an identifier, behind the mark of a raw one if it is a reserved word. -/
inductive Written (language : TargetLanguage) : String → Prop
  | plain {name : String} : WellShaped name → name ∉ reservedWords language → Written language name
  | raw {word : String} : language = .rust → WellShaped word → word ∈ reservedWords language →
      Written language ("r#" ++ word)

/-- The reserved words of Rust that cannot be marked as raw. -/
def unrawable : List String := ["self", "Self", "super", "crate"]

/-- **A name that a language accepts** as an identifier. -/
structure Legal (language : TargetLanguage) (name : String) : Prop where
  written : Written language name
  nonempty : name ≠ ""
  proper : ∀ word ∈ unrawable, name ≠ "r#" ++ word

/-- What is not marked as raw is accepted unless it is empty. -/
lemma Legal.plain (hshape : WellShaped name) (hreserved : name ∉ reservedWords language) (hne : name ≠ "") :
    Legal language name where
  written := .plain hshape hreserved
  nonempty := hne
  proper := by
    have hmark : isAlphanumeric '#' = false := by rfl
    rintro word - rfl
    rcases hshape.chars '#' (by simp) with h | h
    · rw [hmark] at h
      cases h
    · exact absurd h (by decide)

lemma WellShaped.append {more : String} (h : WellShaped name) (hne : name ≠ "")
    (hmore : ∀ c ∈ more.toList, isAlphanumeric c = true ∨ c = '_') : WellShaped (name ++ more) where
  chars c hc := by
    rw [String.toList_append, List.mem_append] at hc
    exact hc.elim (h.chars c) (hmore c)
  head c hc := by
    rw [String.toList_append, List.head?_append_of_ne_nil _ (mt String.toList_eq_nil_iff.1 hne)] at hc
    exact h.head c hc

lemma append_ne_empty_left (hne : name ≠ "") (more : String) : name ++ more ≠ "" := by
  rw [Ne, ← String.toList_eq_nil_iff, String.toList_append, List.append_eq_nil_iff, not_and_or]
  exact .inl (mt String.toList_eq_nil_iff.1 hne)

/-! ## Cleaned names -/

/-- **A cleaned name** has the shape of an identifier. -/
lemma wellShaped_sanitized (name : String) : WellShaped (sanitized name) := by
  have hclean : ∀ d ∈ name.toList.map fun c => if isAlphanumeric c || c == '_' then c else '_',
      isAlphanumeric d = true ∨ d = '_' := by
    rw [List.forall_mem_map]
    intro c _
    split_ifs with hc
    · simpa using hc
    · exact .inr rfl
  have hunderscore : isNumeric '_' = false := by rfl
  rw [sanitized]
  generalize name.toList.map _ = clean at hclean
  cases clean with
  | nil => exact ⟨nofun, nofun⟩
  | cons c rest =>
      by_cases hnumeric : isNumeric c = true
      · simp only [if_pos hnumeric]
        constructor <;> rw [String.toList_ofList]
        · exact List.forall_mem_cons.2 ⟨.inr rfl, hclean⟩
        · exact fun d hd => Option.some.inj hd ▸ hunderscore
      · simp only [if_neg hnumeric]
        constructor <;> rw [String.toList_ofList]
        · exact hclean
        · exact fun d hd => Option.some.inj hd ▸ by simpa using hnumeric

lemma sanitized_ne_empty (h : name ≠ "") : sanitized name ≠ "" := by
  obtain ⟨c, rest, hname⟩ := List.exists_cons_of_ne_nil (mt String.toList_eq_nil_iff.1 h)
  rw [sanitized, hname, List.map_cons]
  dsimp only
  rw [Ne, ← String.toList_eq_nil_iff]
  split_ifs <;> simp

/-! ## Columns -/

/-- **A column that can be spelled**: its name has a letter or digit, and in Rust it is none of the words that
no mark makes free. -/
structure Spellable (language : TargetLanguage) (column : String) : Prop where
  initial : initial column ≠ none
  free : language = .rust → sanitized (snakeCase column) ∉ unrawable

instance (language : TargetLanguage) (column : String) : Decidable (Spellable language column) :=
  decidable_of_iff (initial column ≠ none ∧ (language = .rust → sanitized (snakeCase column) ∉ unrawable))
    ⟨fun h => ⟨h.1, h.2⟩, fun h => ⟨h.initial, h.free⟩⟩

/-- What begins with the first letter or digit of a name is empty only if there is none. -/
lemma ne_empty_of_head? {s : String} {f : Char → Char} (hs : s.toList.head? = (initial column).map f)
    (h : initial column ≠ none) : s ≠ "" := by
  rintro rfl
  exact h (Option.map_eq_none_iff.1 hs.symm)

lemma written_rawIdentifier (h : WellShaped name) : Written .rust (rawIdentifier name) := by
  unfold rawIdentifier
  split_ifs with hreserved
  · exact .raw rfl h (isRustKeyword_iff.1 hreserved)
  · exact .plain h (mt isRustKeyword_iff.2 hreserved)

lemma legal_rawIdentifier (h : WellShaped name) (hne : name ≠ "") (hfree : name ∉ unrawable) :
    Legal .rust (rawIdentifier name) := by
  by_cases hreserved : isRustKeyword name = true
  · have hraw : rawIdentifier name = "r#" ++ name := if_pos hreserved
    refine ⟨written_rawIdentifier h, ?_, fun word hword he => hfree ?_⟩
    · rw [hraw]
      exact append_ne_empty_left (by decide) name
    · rw [hraw] at he
      rwa [(String.append_right_inj _).1 he]
  · rw [rawIdentifier, if_neg hreserved]
    exact .plain h (mt isRustKeyword_iff.2 hreserved) hne

lemma written_fieldName (column : String) : Written .rust (fieldName column .rust) :=
  written_rawIdentifier (wellShaped_sanitized _)

lemma legal_fieldName (h : Spellable .rust column) : Legal .rust (fieldName column .rust) :=
  legal_rawIdentifier (wellShaped_sanitized _)
    (sanitized_ne_empty (ne_empty_of_head? (head?_snakeCase column) h.initial)) (h.free rfl)

/-- In TypeScript an argument is reserved neither as it is nor with an ending. -/
lemma wellShaped_argumentName (column : String) : WellShaped (argumentName column .typeScript) ∧
    argumentName column .typeScript ∉ reservedWords .typeScript ∧
    (initial column ≠ none → argumentName column .typeScript ≠ "") := by
  have hvalue : WellShaped "Value" := wellShaped_iff.2 (by rfl)
  have hending : ∀ word ∈ reservedWords .typeScript, word ++ "Value" ∉ reservedWords .typeScript ∧
      word ≠ "" := by decide +kernel
  have hne : initial column ≠ none → sanitized (camelCase column) ≠ "" := fun h =>
    sanitized_ne_empty (ne_empty_of_head? (head?_camelCase column) h)
  simp only [argumentName, isTypeScriptKeyword_iff]
  split_ifs with hreserved
  · obtain ⟨hfree, hword⟩ := hending _ hreserved
    exact ⟨(wellShaped_sanitized _).append hword hvalue.chars, hfree,
      fun _ => append_ne_empty_left hword _⟩
  · exact ⟨wellShaped_sanitized _, hreserved, hne⟩

/-- **The argument for a column** is written as an identifier, and it is accepted if the column can be
spelled. -/
lemma legal_argumentName (language : TargetLanguage) (column : String) :
    Written language (argumentName column language) ∧
      (Spellable language column → Legal language (argumentName column language)) := by
  cases language with
  | rust =>
      rw [argumentName]
      exact ⟨written_fieldName column, legal_fieldName⟩
  | typeScript =>
      obtain ⟨hshape, hreserved, hne⟩ := wellShaped_argumentName column
      exact ⟨.plain hshape hreserved, fun h => .plain hshape hreserved (hne h.initial)⟩

/-! ## Types -/

/-- The noun that names the records of a table. -/
def noun (t : Table) : String := singularName (snakeCase t.name)

/-- Reserved words begin with a small letter, except for one of Rust, and no look-up is called by one. -/
lemma kinds_of_mem_reservedWords (h : name ∈ reservedWords language) :
    (language = .rust ∧ name = "Self" ∨ name.toList.head?.any Char.isLower = true) ∧
      ¬ "find".toList <+: name.toList := by
  have hall : ∀ word ∈ reservedWords language,
      (language = .rust ∧ word = "Self" ∨ word.toList.head?.any Char.isLower = true) ∧
        ¬ "find".toList <+: word.toList := by
    cases language <;> decide +kernel
  exact hall name h

lemma notMem_reservedWords (hhead : ∀ c, name.toList.head? = some c → c.isLower = false)
    (hself : language = .rust → name ≠ "Self") : name ∉ reservedWords language := by
  intro hmem
  rcases (kinds_of_mem_reservedWords hmem).1 with ⟨hrust, h⟩ | h
  · exact hself hrust h
  · obtain ⟨c, hc, hlower⟩ := (Option.any_eq_true _ _).1 h
    rw [hhead c hc] at hlower
    cases hlower

/-- The noun of a table does not begin with a number. -/
def IsUnnumbered (t : Table) : Prop := ∀ c, initial (noun t) = some c → isNumeric c = false

section Types

variable {t : Table}

/-- The type of a table's rows begins with the first letter or digit of the noun, and a letter is a
capital. -/
lemma head?_recordName (t : Table) : (recordName t.name).toList.head? =
    (initial (noun t)).map fun c => if isNumeric c then c else c.toUpper :=
  head?_pascalCase _

lemma isLower_head?_recordName {c : Char} (hc : (recordName t.name).toList.head? = some c) :
    c.isLower = false := by
  rw [head?_recordName, Option.map_eq_some_iff] at hc
  obtain ⟨d, -, rfl⟩ := hc
  split_ifs with hnumeric
  · exact isLower_of_isNumeric hnumeric
  · exact isLower_toUpper d

lemma wellShaped_recordName (h : IsUnnumbered t) : WellShaped (recordName t.name) where
  chars _ hc := .inl (mem_pascalCase hc)
  head c hc := by
    rw [head?_recordName, Option.map_eq_some_iff] at hc
    obtain ⟨d, hd, rfl⟩ := hc
    rw [if_neg (by simp [h d hd]), isNumeric_toUpper]
    exact h d hd

lemma legal_recordName (h : IsUnnumbered t) (hinitial : initial (noun t) ≠ none)
    (hself : language = .rust → recordName t.name ≠ "Self") : Legal language (recordName t.name) :=
  .plain (wellShaped_recordName h) (notMem_reservedWords (fun _ => isLower_head?_recordName) hself)
    (ne_empty_of_head? (head?_recordName t) hinitial)

lemma head?_createInput (t : Table) : ("New" ++ recordName t.name).toList.head? = some 'N' := by
  rw [String.toList_append]
  rfl

lemma createInput_notMem_reservedWords (t : Table) :
    "New" ++ recordName t.name ∉ reservedWords language := by
  have hhead := head?_createInput t
  refine notMem_reservedWords (fun c hc => ?_) fun _ hself => ?_
  · obtain rfl := Option.some.inj (hhead.symm.trans hc)
    rfl
  · rw [hself] at hhead
    exact absurd hhead (by decide)

/-- What is put in front makes an identifier of every noun. -/
lemma legal_createInput (t : Table) : Legal language ("New" ++ recordName t.name) :=
  .plain (WellShaped.append (wellShaped_iff.2 (by rfl)) (by decide) fun _ hc => .inl (mem_pascalCase hc))
    (createInput_notMem_reservedWords t) (append_ne_empty_left (by decide) _)

lemma updateInput_notMem_reservedWords (t : Table) :
    recordName t.name ++ "Update" ∉ reservedWords language := by
  refine notMem_reservedWords (fun c hc => ?_) fun _ hself => ?_
  · rw [String.toList_append, List.head?_append] at hc
    cases hhead : (recordName t.name).toList.head? with
    | none =>
        rw [hhead] at hc
        obtain rfl := Option.some.inj hc
        rfl
    | some d =>
        rw [hhead, Option.some_or] at hc
        exact isLower_head?_recordName (hhead.trans hc)
  · exact absurd (congrArg (·.toList.length) hself) (by simp)

/-- What is put behind makes one of every noun that does not begin with a number. -/
lemma legal_updateInput (h : IsUnnumbered t) : Legal language (recordName t.name ++ "Update") := by
  have hupdate : WellShaped "Update" := wellShaped_iff.2 (by rfl)
  refine .plain ?_ (updateInput_notMem_reservedWords t) fun hempty => ?_
  · by_cases hne : recordName t.name = ""
    · rwa [hne]
    · exact (wellShaped_recordName h).append hne hupdate.chars
  · exact absurd (congrArg (·.toList.length) hempty) (by simp)

end Types

/-! ## Operations -/

/-- The names of all look-ups begin with one word. -/
lemma prefix_operationName (language : TargetLanguage) (rest : String) :
    "find".toList <+: (Plan.operationName language ("find" ++ rest)).toList := by
  have hfind : "find".toList <+: ("find" ++ rest).toList := ⟨rest.toList, String.toList_append.symm⟩
  have hsmall : "find".toList.all Char.isLower = true := by rfl
  cases language with
  | typeScript => exact prefix_camelCase (List.all_eq_true.1 hsmall) hfind
  | rust => exact prefix_snakeCase (List.all_eq_true.1 hsmall) hfind

lemma legal_operationName (language : TargetLanguage) (rest : String) :
    Legal language (Plan.operationName language ("find" ++ rest)) := by
  have hletter : isNumeric 'f' = false := by rfl
  have hprefix := prefix_operationName language rest
  obtain ⟨more, hmore⟩ := id hprefix
  refine .plain ⟨?_, fun c hc => ?_⟩ (fun hmem => (kinds_of_mem_reservedWords hmem).2 hprefix)
    fun hempty => ?_
  · cases language with
    | typeScript => exact fun c hc => .inl (mem_camelCase hc)
    | rust => exact fun c hc => (mem_snakeCase hc).symm
  · rw [← hmore] at hc
    exact Option.some.inj hc ▸ hletter
  · rw [hempty] at hmore
    exact absurd hmore (by simp)

/-- **The names of operations** are accepted.  Only the method that deletes is called by a reserved word, as
methods may be. -/
lemma forall_drafts_legal (t : Table) (language : TargetLanguage) : ∀ d ∈ Plan.drafts t language,
    Legal language d.name ∨ language = .typeScript ∧ d.kind = .delete ∧ d.name = "delete" := by
  have hplain : ∀ name ∈ ["create", "update"], WellShaped name ∧ name ∉ reservedWords language ∧
      name ≠ "" := by
    cases language <;> decide +kernel
  have hfixed : ∀ name ∈ ["create", "update"], Legal language name := fun name hname =>
    .plain (hplain name hname).1 (hplain name hname).2.1 (hplain name hname).2.2
  rw [Plan.forall_drafts_iff]
  refine ⟨.inl (legal_operationName language "_by_id"), .inl (legal_operationName language "_all"),
    .inl (hfixed _ (.head _)), fun _ => .inl (hfixed _ (.tail _ (.head _))), ?_, fun c _ _ => .inl ?_⟩
  · cases language with
    | typeScript => exact .inr ⟨rfl, rfl, rfl⟩
    | rust =>
        have hplain : WellShaped "delete" ∧ "delete" ∉ reservedWords .rust ∧ "delete" ≠ "" := by
          decide +kernel
        exact .inl (.plain hplain.1 hplain.2.1 hplain.2.2)
  · have hname : "find_by_" ++ sanitized (snakeCase c.name) =
        "find" ++ ("_by_" ++ sanitized (snakeCase c.name)) := by
      rw [← String.append_assoc]
      rfl
    rw [Plan.lookupDraft, hname]
    exact legal_operationName language _

/-- The names that a function adds to its keys are accepted. -/
lemma legal_added (language : TargetLanguage) (kind : OperationKind) :
    ∀ name ∈ parameterNames language kind [], Legal language name := by
  have hplain : ∀ name ∈ parameterNames language kind [],
      WellShaped name ∧ name ∉ reservedWords language ∧ name ≠ "" := by
    cases language <;> cases kind <;> decide +kernel
  exact fun name hname => .plain (hplain name hname).1 (hplain name hname).2.1 (hplain name hname).2.2

/-! ## Generated code -/

/-- **The names in the code of a table.** -/
structure Named (t : Table) (language : TargetLanguage) (p : Plan) : Prop where
  /-- The names of types consist of letters and digits and are not reserved, but for one word of Rust. -/
  types : ∀ name ∈ p.typeNames, (∀ c ∈ name.toList, isAlphanumeric c = true) ∧
    ((language = .rust → name ≠ "Self") → name ∉ reservedWords language)
  record : IsUnnumbered t → initial (noun t) ≠ none → (language = .rust → p.record.name ≠ "Self") →
    Legal language p.record.name
  createInput : Legal language p.createInput.name
  updateInput : IsUnnumbered t → ∀ d, p.updateInput = some d → Legal language d.name
  operations : ∀ o ∈ p.operations,
    Legal language o.name ∨ language = .typeScript ∧ o.kind = .delete ∧ o.name = "delete"
  keys : ∀ o ∈ p.operations, ∀ k ∈ o.keys, Written language k.name ∧
    (Spellable language k.column → Legal language k.name)
  added : ∀ o ∈ p.operations, ∀ name ∈ parameterNames language o.kind [], Legal language name
  /-- In TypeScript a field may be any text. -/
  fields : language = .rust → ∀ d ∈ p.declarations, ∀ f ∈ d.fields, Written language f.name ∧
    (Spellable language f.column → Legal language f.name)

variable {t : Table} {p : Plan}

lemma recordOf_eq_ok {d : Declaration} (h : recordOf t language = .ok d) :
    d.name = recordName t.name ∧ d.fields = t.columns.map (fieldOf language) := by
  obtain ⟨-, -, h⟩ := bind_eq_ok_iff.1 h
  obtain rfl := Except.ok.inj h
  exact ⟨rfl, rfl⟩

lemma eq_of_updateInput (h : Plan.ofTable t language = .ok p) {d : Declaration}
    (hd : p.updateInput = some d) :
    d = Plan.inputOf p.record (p.record.name ++ "Update") (Plan.updatable t) := by
  obtain ⟨-, -, -, -, hupdate⟩ := Plan.ofTable_eq_ok h
  rw [hupdate] at hd
  split_ifs at hd
  exact (Option.some.inj hd).symm

/-- The fields of every type are those of the columns. -/
lemma mem_fields (h : Plan.ofTable t language = .ok p) {d : Declaration} (hd : d ∈ p.declarations) {f : Field}
    (hf : f ∈ d.fields) : ∃ c ∈ t.columns, fieldOf language c = f := by
  obtain ⟨-, hrecord, -, hcreate, -⟩ := Plan.ofTable_eq_ok h
  have hmem : f ∈ p.record.fields := by
    simp only [Plan.declarations, List.mem_append, List.mem_cons, List.not_mem_nil, or_false,
      Option.mem_toList] at hd
    rcases hd with (rfl | rfl) | hd
    · exact hf
    · rw [hcreate] at hf
      exact List.mem_of_mem_filter hf
    · rw [eq_of_updateInput h hd] at hf
      exact List.mem_of_mem_filter hf
  rw [(recordOf_eq_ok hrecord).2] at hmem
  exact List.mem_map.1 hmem

/-- The name of a type is the noun in capitals, alone or with a word in front or behind. -/
lemma eq_of_mem_typeNames (h : Plan.ofTable t language = .ok p) (hname : name ∈ p.typeNames) :
    name = recordName t.name ∨ name = "New" ++ recordName t.name ∨ name = recordName t.name ++ "Update" := by
  obtain ⟨-, hrecord, -, hcreate, -⟩ := Plan.ofTable_eq_ok h
  simp only [Plan.typeNames, List.mem_append, List.mem_cons, List.not_mem_nil, or_false, Option.mem_toList,
    Option.map_eq_some_iff] at hname
  rw [← (recordOf_eq_ok hrecord).1]
  rcases hname with (rfl | rfl) | ⟨d, hd, rfl⟩
  · exact .inl rfl
  · exact .inr (.inl (by rw [hcreate, Plan.inputOf]))
  · exact .inr (.inr (by rw [eq_of_updateInput h hd, Plan.inputOf]))

/-- The names of types consist of letters and digits and are not reserved, but for one word of Rust. -/
lemma forall_typeNames (h : Plan.ofTable t language = .ok p) (hname : name ∈ p.typeNames) :
    (∀ c ∈ name.toList, isAlphanumeric c = true) ∧
      ((language = .rust → name ≠ "Self") → name ∉ reservedWords language) := by
  have hwords : ("New".toList ++ "Update".toList).all isAlphanumeric = true := by rfl
  obtain ⟨hnew, hupdate⟩ := List.forall_mem_append.1 (List.all_eq_true.1 hwords)
  rcases eq_of_mem_typeNames h hname with rfl | rfl | rfl
  · exact ⟨fun _ => mem_pascalCase, notMem_reservedWords fun _ => isLower_head?_recordName⟩
  · rw [String.toList_append]
    exact ⟨List.forall_mem_append.2 ⟨hnew, fun _ => mem_pascalCase⟩,
      fun _ => createInput_notMem_reservedWords t⟩
  · rw [String.toList_append]
    exact ⟨List.forall_mem_append.2 ⟨fun _ => mem_pascalCase, hupdate⟩,
      fun _ => updateInput_notMem_reservedWords t⟩

/-- **The names in the code of a table** from its plan. -/
lemma named_of_ofTable (h : Plan.ofTable t language = .ok p) : Named t language p := by
  obtain ⟨-, hrecord, hoperations, hcreate, -⟩ := Plan.ofTable_eq_ok h
  have hname := (recordOf_eq_ok hrecord).1
  constructor
  case types => exact fun name => forall_typeNames h
  case record =>
    rw [hname]
    exact legal_recordName
  case createInput =>
    rw [hcreate, Plan.inputOf, hname]
    exact legal_createInput t
  case updateInput =>
    intro hnoun d hd
    rw [eq_of_updateInput h hd, Plan.inputOf, hname]
    exact legal_updateInput hnoun
  case operations =>
    exact (Plan.forall_operations_iff (fun d o hd => by rw [hd.kind, hd.name]) hoperations).2
      (forall_drafts_legal t language)
  case keys =>
    intro o ho k hk
    obtain ⟨set, filter, -, hmade⟩ := Plan.mem_operationsOf hoperations ho
    rw [hmade.keys] at hk
    obtain ⟨c, -, rfl⟩ := List.mem_map.1 hk
    simp only [Plan.keyParameter]
    exact legal_argumentName language c.name
  case added => exact fun o _ => legal_added language o.kind
  case fields =>
    rintro rfl d hd f hf
    obtain ⟨c, -, rfl⟩ := mem_fields h hd hf
    simp only [fieldOf]
    exact ⟨written_fieldName c.name, legal_fieldName⟩

/-- **The names in generated code.**  The files hold the code of one plan for each table, and in each of them
every function is written with the names that it binds.  The names of types, operations, parameters and fields
are accepted by the language, as far as the names they come from can be spelled. -/
theorem generate_identifiers {schema : Schema} {pageSize : Nat} {files : Artifacts}
    (h : generate schema language pageSize = .ok files) :
    ∃ ps, plans schema language = .ok ps ∧ files = Artifacts.ofList (allFiles language pageSize ps) ∧
      List.Forall₂ (fun t p => Plan.ofTable t language = .ok p ∧ Named t language p ∧
        ∀ o ∈ p.operations, Rendered p pageSize o language) schema.tables ps := by
  obtain ⟨ps, hps, hfiles⟩ := bind_eq_ok_iff.1 h
  exact ⟨ps, hps, (Except.ok.inj hfiles).symm, (plans_eq_ok hps).1.imp fun t p hp =>
    ⟨hp, named_of_ofTable hp, fun o ho => rendered_of_ofTable hp ho pageSize⟩⟩

/-- A table with columns that are a reserved word and more than a word. -/
def matchTable : Table where
  name := "football matches"
  columns := [
    { name := "id", scalarType := .integer, primaryKey := true },
    { name := "type", scalarType := .text, unique := true },
    { name := "2nd-half", scalarType := .text }]

/-- A schema of this table alone. -/
def matchSchema : Schema where
  tables := [matchTable]
  relationships := []
  distinct := List.pairwise_singleton _ _

/-- All names in the code of the table are accepted. -/
theorem matchSchema_named : ∃ files ps, generate matchSchema .rust 50 = .ok files ∧
    plans matchSchema .rust = .ok ps ∧ ∀ p ∈ ps, Legal .rust p.record.name ∧
      (∀ o ∈ p.operations, Legal .rust o.name ∧ ∀ k ∈ o.keys, Legal .rust k.name) ∧
      ∀ d ∈ p.declarations, ∀ f ∈ d.fields, Legal .rust f.name := by
  obtain ⟨ps, hps, hspelled⟩ := Plan.exists_ok (x := plans matchSchema .rust)
    (f := fun ps => decide (∀ p ∈ ps, p.record.name ≠ "Self" ∧
      (∀ o ∈ p.operations, ∀ k ∈ o.keys, Spellable .rust k.column) ∧
      ∀ d ∈ p.declarations, ∀ f ∈ d.fields, Spellable .rust f.column))
    (b := true) (by decide +kernel)
  obtain ⟨files, hfiles, -⟩ := generate_of_plans 50 hps
  obtain ⟨ps', hps', -, hall⟩ := generate_identifiers hfiles
  obtain rfl := Except.ok.inj (hps.symm.trans hps')
  have hnoun : initial (noun matchTable) = some 'f' := by decide +kernel
  have hletter : isNumeric 'f' = false := by rfl
  refine ⟨files, ps, hfiles, hps, fun p hp => ?_⟩
  obtain ⟨t, ht, -, hnamed, -⟩ := Plan.exists_of_forall₂ hall hp
  obtain rfl := List.mem_singleton.1 ht
  obtain ⟨hself, hkeys, hfields⟩ := of_decide_eq_true hspelled p hp
  refine ⟨hnamed.record (fun c hc => ?_) (by simp [hnoun]) fun _ => hself,
    fun o ho => ⟨(hnamed.operations o ho).resolve_right nofun, fun k hk =>
      (hnamed.keys o ho k hk).2 (hkeys o ho k hk)⟩,
    fun d hd f hf => (hnamed.fields rfl d hd f hf).2 (hfields d hd f hf)⟩
  rw [← Option.some.inj (hnoun.symm.trans hc)]
  exact hletter

/-- **A method with a reserved name**: the one that deletes. -/
theorem matchSchema_delete_reserved : ∃ files ps, generate matchSchema .typeScript 50 = .ok files ∧
    plans matchSchema .typeScript = .ok ps ∧
    ∃ p ∈ ps, ∃ o ∈ p.operations, o.name ∈ reservedWords .typeScript := by
  obtain ⟨ps, hps, hreserved⟩ := Plan.exists_ok (x := plans matchSchema .typeScript)
    (f := fun ps => decide (∃ p ∈ ps, ∃ o ∈ p.operations, o.name ∈ reservedWords .typeScript))
    (b := true) (by decide +kernel)
  obtain ⟨files, hfiles, -⟩ := generate_of_plans 50 hps
  exact ⟨files, ps, hfiles, hps, of_decide_eq_true hreserved⟩

end SchemaCompiler.Access

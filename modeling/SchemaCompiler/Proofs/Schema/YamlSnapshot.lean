import SchemaCompiler.Proofs.Schema.Snapshot
import SchemaCompiler.Proofs.Yaml.Nodes

/-!
# Snapshots read as YAML

A snapshot is written as JSON, and JSON is meant to be YAML.  All keys in a snapshot are names of fields,
which are short.  So what counts is the characters: where all of them may stand in YAML for themselves, a
reader of YAML finds the document that was written, and where one of them may not stand in YAML at all, it
finds nothing.

* `SchemaDocument.keyed` — the keys of a document.
* **`SchemaDocument.parse_yaml_toJson`**, `SchemaDocument.parse_yaml_toJson_error` — documents as texts of
  YAML.
-/

namespace SchemaCompiler

open Json
open Yaml.Scanner (IsShort)

/-! ## Names of fields -/

lemma ForeignKey.keyed (r : ForeignKey) : Keyed IsShort r.encode := by
  simp +decide [encode]

lemma Column.keyed_onDelete (a : OnDelete) :
    KeyedFields IsShort (if a = .noAction then [] else [("on_delete", .string a.key)]) := by
  split_ifs <;> simp +decide

lemma Column.keyed (c : Column) : Keyed IsShort c.encode := by
  simp +decide [encode, keyed_onDelete, keyedFields_optionalField _ ForeignKey.keyed,
    keyedFields_optionalField _ keyed_string]

lemma Index.keyed (i : Index) : Keyed IsShort i.encode := by
  simp +decide [encode, keyedFields_optionalField _ keyed_string, keyedFields_optionalList _ keyed_string]

lemma TableConstraint.keyed (c : TableConstraint) : Keyed IsShort c.encode := by
  cases c <;> simp +decide [encode]

lemma Table.keyed (t : Table) : Keyed IsShort t.encode := by
  simp +decide [encode, keyed_array_map Column.keyed, keyedFields_optionalList _ Index.keyed,
    keyedFields_optionalList _ TableConstraint.keyed, keyedFields_optionalField _ keyed_string]

lemma Relationship.keyed (r : Relationship) : Keyed IsShort r.encode := by
  simp +decide [encode, keyedFields_optionalField _ keyed_string]

namespace SchemaDocument

lemma keyed (d : SchemaDocument) : Keyed IsShort d.encode := by
  simp +decide [encode, keyed_array_map Table.keyed, keyedFields_optionalList _ Relationship.keyed]

/-! ## Documents -/

lemma toList_toJson (d : SchemaDocument) : d.toJson.toList = d.encode.prettyChars 0 ++ ['\n'] := by
  simp [toJson, pretty]

/-- **A snapshot is read as what it is**, if all of its characters may stand in YAML for themselves. -/
theorem parse_yaml_toJson (d : SchemaDocument) (hverbatim : d.toJson.toList.all Yaml.isVerbatim = true) :
    SchemaDocument.parse .yaml d.toJson = .ok d := by
  have hchars : ∀ c ∈ d.encode.prettyChars 0, Yaml.isVerbatim c = true := by
    rw [toList_toJson, List.all_append, Bool.and_eq_true] at hverbatim
    exact List.all_eq_true.1 hverbatim.1
  have hyaml : Yaml.parse d.toJson = some d.encode.canonical := Yaml.parse_pretty d.plain d.keyed hchars
  rw [parse, DocumentFormat.toJson, hyaml]
  exact d.ofJson_encode

/-- It is not read, if one of its characters may not stand in YAML. -/
lemma parse_yaml_toJson_error {d : SchemaDocument} (hallowed : d.toJson.toList.all Yaml.isAllowed = false) :
    SchemaDocument.parse .yaml d.toJson = .error (.document .malformed) := by
  obtain ⟨c, hc, hnot⟩ := List.all_eq_false.1 hallowed
  rw [parse, DocumentFormat.toJson, Yaml.parse_eq_none hc (by simpa using hnot)]
  rfl

end SchemaDocument

end SchemaCompiler

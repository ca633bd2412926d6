import Mathlib.Data.List.Forall2
import SchemaCompiler.Proofs.Text.Truncation
import SchemaCompiler.Schema.Document

/-!
# The names of indexes that have none

A document may leave out the name of an index and the table it belongs to.  Both are filled in from the
table and the columns of the index, and from nothing that is filled in: so a second time nothing changes,
not even where the name that is derived is empty again.

* `NamedWithin` — an index keeps a name that it has, and a name that it has not is derived and fits.
* `forall₂_normalize` — all indexes of a document, each at its place.
* `normalize_normalize` — nothing changes a second time.
* **`SchemaDocument.derivedNames_within`** — names that are cut, and the names of indexes.
-/

namespace SchemaCompiler.SchemaDocument

open Naming (truncated indexName Cut)

variable {naming : NamingSettings}

/-- **What becomes of an index.**  A name that is given stays.  One that is not is derived from the table
and the columns as the settings say, and is cut to the number of bytes in the settings. -/
structure NamedWithin (naming : NamingSettings) (table : String) (before after : Index) : Prop where
  given : before.name ≠ "" → after.name = before.name
  derived : before.name = "" →
    after.name = truncated (indexName naming.indexPattern table before.columns) naming.maxIdentifierLength
  within : before.name = "" → after.name.utf8ByteSize ≤ naming.maxIdentifierLength

/-- All indexes of a table, each at its place. -/
def IndexesNamed (naming : NamingSettings) (before after : Table) : Prop :=
  List.Forall₂ (NamedWithin naming before.name) before.indexes after.indexes

lemma name_normalizeIndex (t : Table) (i : Index) : (normalizeIndex naming t i).name =
    if i.name = "" then truncated (indexName naming.indexPattern t.name i.columns) naming.maxIdentifierLength
    else i.name := rfl

lemma namedWithin_normalizeIndex (h : 9 < naming.maxIdentifierLength) (t : Table) (i : Index) :
    NamedWithin naming t.name i (normalizeIndex naming t i) where
  given hname := by rw [name_normalizeIndex, if_neg hname]
  derived hname := by rw [name_normalizeIndex, if_pos hname]
  within hname := by
    rw [name_normalizeIndex, if_pos hname]
    exact Naming.utf8ByteSize_truncated_le _ h

/-- Every index of a document, each at its place. -/
lemma forall₂_normalize (h : 9 < naming.maxIdentifierLength) (d : SchemaDocument) :
    List.Forall₂ (IndexesNamed naming) d.tables (normalize naming d).tables := by
  rw [normalize, List.forall₂_map_right_iff]
  refine List.forall₂_same.2 fun t _ => ?_
  rw [IndexesNamed, normalizeTable, List.forall₂_map_right_iff]
  exact List.forall₂_same.2 fun i _ => namedWithin_normalizeIndex h t i

/-- What is filled in depends on nothing that is filled in. -/
lemma normalizeIndex_normalizeIndex (t : Table) (i : Index) :
    normalizeIndex naming t (normalizeIndex naming t i) = normalizeIndex naming t i := by
  simp only [normalizeIndex]
  congr 1 <;> split_ifs <;> rfl

/-- **Nothing changes a second time.** -/
lemma normalize_normalize (naming : NamingSettings) (d : SchemaDocument) :
    normalize naming (normalize naming d) = normalize naming d := by
  have htable : ∀ t, normalizeTable naming (normalizeTable naming t) = normalizeTable naming t := fun t => by
    have hindex : ∀ i, normalizeIndex naming (normalizeTable naming t) (normalizeIndex naming t i) =
        normalizeIndex naming t i := normalizeIndex_normalizeIndex t
    simp only [normalizeTable, List.map_map]
    congr 1
    exact List.map_congr_left fun i _ => hindex i
  simp only [normalize, List.map_map]
  congr 1
  exact List.map_congr_left fun t _ => htable t

/-- **Names that are derived have a length that the database takes**, for every name and every limit that
leaves room for the nine bytes.  A name that fits stays.  Of any other the longest beginning is kept that
leaves this room and cuts no character in two, which the search for a boundary finds; behind it stand an
underscore and eight hexadecimal digits, and if the name is ASCII all of the room is used.  A name that is
cut is not cut again.  So every name that is derived for an index of a document has at most as many bytes as
the settings say, and a document that is normalized is not changed when it is normalized again. -/
theorem derivedNames_within (name : String) {limit : Nat} (h : 9 < limit) :
    Naming.Truncates name limit ∧
      (∀ naming d, naming.maxIdentifierLength = limit →
        List.Forall₂ (IndexesNamed naming) d.tables (normalize naming d).tables) ∧
      ∀ naming d, normalize naming (normalize naming d) = normalize naming d := by
  refine ⟨Naming.truncates name h, fun naming d hsame => ?_, normalize_normalize⟩
  subst hsame
  exact forall₂_normalize h d

/-- A table of sizes, with an index that has no name and one that has a long one. -/
def sizeTable : Table where
  name := "größe"
  columns := [(Column.ofType "id" .integer).asPrimaryKey, .ofType "höhe" .real]
  indexes := [{ name := "", table := "", columns := ["höhe"] },
    { name := "sizes_by_their_height", table := "größe", columns := ["höhe"] }]

/-- There is room for seven bytes, and the seventh one is in the middle of a letter, so that six are kept.
The index without a name gets this one, and the other keeps its own, however long it is. -/
theorem sizeName_within : 9 < 16 ∧ 16 < "idx_größe_höhe".utf8ByteSize ∧ ∃ kept digits,
    truncated "idx_größe_höhe" 16 = kept ++ "_" ++ digits ∧ Cut "idx_größe_höhe" 16 kept digits ∧
      kept.utf8ByteSize = 6 ∧ (truncated "idx_größe_höhe" 16).utf8ByteSize = 15 ∧
      (normalizeTable { maxIdentifierLength := 16 } sizeTable).indexes.map (·.name) =
        [kept ++ "_" ++ digits, "sizes_by_their_height"] := by
  have hlong : 16 < "idx_größe_höhe".utf8ByteSize := by decide +kernel
  obtain ⟨htruncates, hnormalize, -⟩ := derivedNames_within "idx_größe_höhe" (by decide : 9 < 16)
  obtain ⟨kept, digits, heq, hcut, -⟩ := htruncates.cut hlong
  have hfound : Naming.boundaryBelow "idx_größe_höhe" (16 - 9) = some 6 := by decide +kernel
  have hkept : kept.utf8ByteSize = 6 := Option.some.inj (hcut.found.symm.trans hfound)
  have hname : indexName ({} : NamingSettings).indexPattern "größe" ["höhe"] = "idx_größe_höhe" := by
    decide +kernel
  rcases hnormalize { maxIdentifierLength := 16 } { tables := [sizeTable] } rfl with _ | ⟨htable, -⟩
  rcases htable with _ | ⟨hfirst, _ | ⟨hsecond, -⟩⟩
  refine ⟨by decide, hlong, kept, digits, heq, hcut, hkept, by rw [heq, hcut.utf8ByteSize_eq, hkept], ?_⟩
  have hderived := hfirst.derived rfl
  have hgiven := hsecond.given (by decide)
  rw [← heq, ← hname]
  exact congrArg₂ (fun first second => [first, second]) hderived hgiven

end SchemaCompiler.SchemaDocument

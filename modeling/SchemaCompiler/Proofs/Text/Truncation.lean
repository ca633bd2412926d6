import Mathlib.Data.String.Basic
import SchemaCompiler.Naming.Derived

/-!
# Names cut to a number of bytes

A derived name that is too long keeps its beginning, and nine bytes behind it tell it apart from other names
that begin in the same way.  The room for the beginning is counted in bytes, and a character may take
several.  So the place of the cut is searched for: from the last byte for which there is room downwards,
until no character is cut in two.  The search is over at the first byte at the latest.

* `IsBoundary`, `boundaryBelow` — offsets at which no character is cut in two, and the search for one.  A step
  below the first byte is its failure.
* `takeBytes_prefix`, `utf8Len_takeBytes_le`, `prefix_takeBytes` — the longest beginning for which there is
  room.
* `boundaryBelow_eq_some` — the search ends there.
* `hexDigest_eq_eight` — eight digits of a digest.
* `Cut` — the beginning that is kept and the digits behind it.
* `exists_cut`, `utf8ByteSize_truncated_le`, `truncated_truncated` — what becomes of a name that is too long.
* `Truncates`, `truncates` — what becomes of every name.
-/

namespace SchemaCompiler.Naming

variable {s name kept digits : String} {n k limit : Nat} {cs front : List Char}

/-! ## The search for a boundary -/

/-- An offset in bytes at which no character of a text is cut in two. -/
def IsBoundary (s : String) (k : Nat) : Prop := (⟨k⟩ : String.Pos.Raw).IsValid s

instance (s : String) (k : Nat) : Decidable (IsBoundary s k) :=
  inferInstanceAs (Decidable ((⟨k⟩ : String.Pos.Raw).IsValid s))

/-- **The search for a boundary**, byte by byte from an offset downwards.  There is no step below the first
byte. -/
def boundaryBelow (s : String) : Nat → Option Nat
  | 0 => if IsBoundary s 0 then some 0 else none
  | k + 1 => if IsBoundary s (k + 1) then some (k + 1) else boundaryBelow s k

/-- A boundary is the end of a beginning of the text. -/
lemma isBoundary_iff : IsBoundary s k ↔ ∃ front, front <+: s.toList ∧ String.utf8Len front = k := by
  rw [IsBoundary, String.Pos.Raw.isValid_iff_exists_append]
  constructor
  · rintro ⟨before, behind, rfl, hk⟩
    have hsize : before.utf8ByteSize = k := (congrArg String.Pos.Raw.byteIdx hk).symm
    rw [String.toList_append]
    exact ⟨before.toList, List.prefix_append _ _, by rw [String.utf8Len_toList, hsize]⟩
  · rintro ⟨front, ⟨behind, hsplit⟩, rfl⟩
    refine ⟨String.ofList front, String.ofList behind, ?_, by rw [String.rawEndPos_ofList]⟩
    rw [← String.ofList_append, hsplit, String.ofList_toList]

/-- The search ends at the last boundary. -/
lemma boundaryBelow_eq_some (hboundary : IsBoundary s k) (hle : k ≤ n)
    (hlast : ∀ j, IsBoundary s j → j ≤ n → j ≤ k) : boundaryBelow s n = some k := by
  induction n with
  | zero =>
      obtain rfl := Nat.le_zero.1 hle
      rw [boundaryBelow, if_pos hboundary]
  | succ n ih =>
      rw [boundaryBelow]
      rcases Nat.le_succ_iff.1 hle with hbelow | rfl
      · have hcut : ¬ IsBoundary s (n + 1) := fun h => by
          have := hlast (n + 1) h (le_refl _)
          omega
        rw [if_neg hcut]
        exact ih hbelow fun j hj hjn => hlast j hj (by omega)
      · rw [if_pos hboundary]

/-! ## The longest beginning -/

/-- A character of ASCII takes one byte. -/
lemma utf8Len_of_ascii (h : ∀ c ∈ cs, c.toNat < 128) : String.utf8Len cs = cs.length := by
  induction cs with
  | nil => rfl
  | cons c rest ih =>
      obtain ⟨hc, hrest⟩ := List.forall_mem_cons.1 h
      have hone : c.utf8Size = 1 :=
        Char.utf8Size_eq_one_iff.2 (UInt32.le_iff_toNat_le.2 (Nat.le_of_lt_succ hc))
      rw [String.utf8Len_cons, ih hrest, hone, List.length_cons]

lemma takeBytes_prefix (n : Nat) (cs : List Char) : takeBytes n cs <+: cs := by
  induction cs generalizing n with
  | nil => exact List.nil_prefix
  | cons c rest ih =>
      rw [takeBytes]
      split_ifs
      · exact (List.prefix_cons_inj c).2 (ih _)
      · exact List.nil_prefix

lemma utf8Len_takeBytes_le (n : Nat) (cs : List Char) : String.utf8Len (takeBytes n cs) ≤ n := by
  induction cs generalizing n with
  | nil => exact Nat.zero_le n
  | cons c rest ih =>
      rw [takeBytes]
      split_ifs with hroom
      · have := ih (n - c.utf8Size)
        rw [String.utf8Len_cons]
        omega
      · exact Nat.zero_le n

/-- Every beginning for which there is room is a beginning of what is kept. -/
lemma prefix_takeBytes (hfront : front <+: cs) (hroom : String.utf8Len front ≤ n) :
    front <+: takeBytes n cs := by
  induction cs generalizing n front with
  | nil => exact hfront
  | cons c rest ih =>
      cases front with
      | nil => exact List.nil_prefix
      | cons d front =>
          obtain ⟨rfl, hrest⟩ := List.cons_prefix_cons.1 hfront
          rw [String.utf8Len_cons] at hroom
          rw [takeBytes, if_pos (by omega), List.prefix_cons_inj]
          exact ih hrest (by omega)

/-! ## Digits of a digest -/

/-- The hexadecimal digits, with small letters. -/
def hexDigits : List Char := "0123456789abcdef".toList

lemma digitChar_mem_hexDigits : ∀ d < 16, Nat.digitChar d ∈ hexDigits := by decide +kernel

lemma mem_hexDigits_of_mem_hexByte {b : UInt8} {c : Char} (hc : c ∈ Digest.Md5.hexByte b) :
    c ∈ hexDigits := by
  have hb := b.toNat_lt
  rw [Digest.Md5.hexByte, List.mem_pair] at hc
  rcases hc with rfl | rfl <;> exact digitChar_mem_hexDigits _ (by omega)

lemma length_flatMap_hexByte (bytes : List UInt8) :
    (bytes.flatMap Digest.Md5.hexByte).length = 2 * bytes.length := by
  induction bytes with
  | nil => rfl
  | cons b rest ih =>
      rw [List.flatMap_cons, List.length_append, ih, List.length_cons]
      exact Nat.add_comm _ _

lemma length_bytesOf (n count : Nat) : (Digest.Md5.bytesOf n count).length = count := by
  induction count generalizing n with
  | zero => rfl
  | succ count ih => rw [Digest.Md5.bytesOf, List.length_cons, ih]

lemma mem_hexDigits_of_mem_hexDigest {c : Char} (hc : c ∈ (Digest.Md5.hexDigest s).toList) :
    c ∈ hexDigits := by
  rw [Digest.Md5.hexDigest, String.toList_ofList] at hc
  obtain ⟨word, -, hc⟩ := List.mem_flatMap.1 hc
  obtain ⟨byte, -, hc⟩ := List.mem_flatMap.1 hc
  exact mem_hexDigits_of_mem_hexByte hc

lemma length_hexDigest (s : String) : (Digest.Md5.hexDigest s).toList.length = 32 := by
  rw [Digest.Md5.hexDigest, String.toList_ofList]
  simp only [List.flatMap_cons, List.flatMap_nil, List.length_append, length_flatMap_hexByte, length_bytesOf,
    List.length_nil]

/-! ## Names that are cut -/

/-- **A name is cut**: of its beginnings that leave room for nine bytes it keeps the longest one, which is
the one that the search for a boundary finds, and behind an underscore stand eight digits of its digest. -/
structure Cut (name : String) (limit : Nat) (kept digits : String) : Prop where
  beginning : kept.toList <+: name.toList
  room : kept.utf8ByteSize ≤ limit - 9
  longest : ∀ k, IsBoundary name k → k ≤ limit - 9 → k ≤ kept.utf8ByteSize
  found : boundaryBelow name (limit - 9) = some kept.utf8ByteSize
  digits_eq : digits.toList = (Digest.Md5.hexDigest name).toList.take 8
  length_digits : digits.toList.length = 8
  hexadecimal : ∀ c ∈ digits.toList, c ∈ hexDigits

namespace Cut

/-- Nine bytes stand behind what is kept. -/
lemma utf8ByteSize_eq (h : Cut name limit kept digits) :
    (kept ++ "_" ++ digits).utf8ByteSize = kept.utf8ByteSize + 9 := by
  have hall : hexDigits.all (fun c => c.toNat < 128) = true := by decide +kernel
  have hascii : ∀ c ∈ digits.toList, c.toNat < 128 := fun c hc =>
    of_decide_eq_true (List.all_eq_true.1 hall c (h.hexadecimal c hc))
  have hdigits : digits.utf8ByteSize = 8 := by
    rw [← String.utf8Len_toList, utf8Len_of_ascii hascii, h.length_digits]
  have hunderscore : "_".utf8ByteSize = 1 := by decide
  rw [String.utf8ByteSize_append, String.utf8ByteSize_append, hdigits, hunderscore]

/-- Where every character takes one byte there is a boundary at every offset, so that nothing is left free. -/
lemma kept_of_ascii (h : Cut name limit kept digits) (hlong : limit < name.utf8ByteSize)
    (hascii : ∀ c ∈ name.toList, c.toNat < 128) : kept.utf8ByteSize = limit - 9 := by
  have hlength : name.toList.length = name.utf8ByteSize := by
    rw [← utf8Len_of_ascii hascii, String.utf8Len_toList]
  refine Nat.le_antisymm h.room
    (h.longest _ (isBoundary_iff.2 ⟨name.toList.take (limit - 9), ?_, ?_⟩) (le_refl _))
  · exact List.take_prefix _ _
  · rw [utf8Len_of_ascii fun c hc => hascii c (List.mem_of_mem_take hc), List.length_take]
    omega

end Cut

lemma truncated_of_le (h : name.utf8ByteSize ≤ limit) : truncated name limit = name := by
  rw [truncated, if_pos (by simp [h])]

/-- **A name that is too long is cut**, and the search for the place of the cut succeeds. -/
theorem exists_cut (hlimit : 9 < limit) (hlong : limit < name.utf8ByteSize) :
    ∃ kept digits, truncated name limit = kept ++ "_" ++ digits ∧ Cut name limit kept digits := by
  set front := takeBytes (limit - 9) name.toList with hfront
  have hprefix : front <+: name.toList := takeBytes_prefix _ _
  have hroom : String.utf8Len front ≤ limit - 9 := utf8Len_takeBytes_le _ _
  have hlongest : ∀ k, IsBoundary name k → k ≤ limit - 9 → k ≤ String.utf8Len front := by
    intro k hk hle
    obtain ⟨other, hother, rfl⟩ := isBoundary_iff.1 hk
    exact String.utf8Len_le_of_prefix (prefix_takeBytes hother hle)
  refine ⟨String.ofList front, String.ofList ((Digest.Md5.hexDigest name).toList.take 8), ?_, ?_⟩
  · have hnot : (name.utf8ByteSize ≤ limit || limit ≤ 9) = false := by simp [hlong, hlimit]
    rw [truncated, hnot, if_neg Bool.false_ne_true, ← hfront, String.append_assoc]
    simp [String.ofList_append, String.ofList_cons]
  · constructor <;> simp only [String.toList_ofList, String.utf8ByteSize_ofList]
    · exact hprefix
    · exact hroom
    · exact hlongest
    · exact boundaryBelow_eq_some (isBoundary_iff.2 ⟨front, hprefix, rfl⟩) hroom hlongest
    · rw [List.length_take, length_hexDigest]
      rfl
    · exact fun c hc => mem_hexDigits_of_mem_hexDigest (List.mem_of_mem_take hc)

/-- **What is left fits**, if there is room for nine bytes at all. -/
theorem utf8ByteSize_truncated_le (name : String) (hlimit : 9 < limit) :
    (truncated name limit).utf8ByteSize ≤ limit := by
  rcases Nat.lt_or_ge limit name.utf8ByteSize with hlong | hfits
  · obtain ⟨kept, digits, heq, hcut⟩ := exists_cut hlimit hlong
    have := hcut.room
    rw [heq, hcut.utf8ByteSize_eq]
    omega
  · rw [truncated_of_le hfits]
    exact hfits

lemma truncated_truncated (name : String) (hlimit : 9 < limit) :
    truncated (truncated name limit) limit = truncated name limit :=
  truncated_of_le (utf8ByteSize_truncated_le name hlimit)

/-- **What becomes of a name.**  It fits; it stays if it fits already, and otherwise it is cut, and then
nothing is left free if all of its characters take one byte; and a second time nothing changes. -/
structure Truncates (name : String) (limit : Nat) : Prop where
  within : (truncated name limit).utf8ByteSize ≤ limit
  stays : name.utf8ByteSize ≤ limit → truncated name limit = name
  cut : limit < name.utf8ByteSize → ∃ kept digits, truncated name limit = kept ++ "_" ++ digits ∧
    Cut name limit kept digits ∧
      ((∀ c ∈ name.toList, c.toNat < 128) → (truncated name limit).utf8ByteSize = limit)
  again : truncated (truncated name limit) limit = truncated name limit

theorem truncates (name : String) (hlimit : 9 < limit) : Truncates name limit where
  within := utf8ByteSize_truncated_le name hlimit
  stays := truncated_of_le
  cut := by
    intro hlong
    obtain ⟨kept, digits, heq, hcut⟩ := exists_cut hlimit hlong
    refine ⟨kept, digits, heq, hcut, fun hascii => ?_⟩
    rw [heq, hcut.utf8ByteSize_eq, hcut.kept_of_ascii hlong hascii]
    omega
  again := truncated_truncated name hlimit

end SchemaCompiler.Naming

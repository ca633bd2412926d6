import Mathlib.Tactic.Common
import SchemaCompiler.Text.LetterCase

/-!
# Names as a database compares them

A database keeps names apart only as far as the case of ASCII letters allows.  The theory below works
with the representative `folded` of a name, so that "the same name" becomes an equation and a database
can be a function of names.

The compiler compares some names by `toLowercase` instead, which folds every letter of Unicode.  The two
comparisons agree in one direction only, and that direction is `toLowercase_eq_of_sameName`: a name has
one small form whatever the case of its ASCII letters.  The capital and the small é have one small form
too and are two names nevertheless, which is where tables get overlooked.
-/

namespace SchemaCompiler.Text

/-! ## The folded name -/

/-- The representative of a name among all its spellings. -/
def folded (s : String) : String := String.ofList (foldAscii s)

/-- Equality of folded names is sameness of names. -/
lemma folded_eq_iff {a b : String} : folded a = folded b ↔ sameName a b = true := by
  rw [sameName_iff, folded, folded, String.ofList_inj]

lemma folded_ne_iff {a b : String} : folded a ≠ folded b ↔ sameName a b = false := by
  rw [Ne, folded_eq_iff, Bool.not_eq_true]

/-- Same names are interchangeable on the left of a comparison. -/
lemma sameName_congr_left {a b : String} (h : sameName a b = true) (c : String) :
    sameName a c = sameName b c := by
  rw [Bool.eq_iff_iff, ← folded_eq_iff, ← folded_eq_iff, folded_eq_iff.2 h]

/-- Same names are interchangeable on the right of a comparison. -/
lemma sameName_congr_right {a b : String} (h : sameName a b = true) (c : String) :
    sameName c a = sameName c b := by
  rw [sameName_comm c a, sameName_comm c b, sameName_congr_left h]

/-! ## ASCII case under full conversion -/

/-- A capital letter of ASCII is one of 26 characters, so a statement about all of them can be
computed. -/
lemma forall_of_isUpper {P : Char → Prop} (h : ∀ n ∈ List.range' 65 26, P (Char.ofNat n)) {c : Char}
    (hc : c.isUpper = true) : P c := by
  have hn : c.toNat ∈ List.range' 65 26 := by
    obtain ⟨hlo, hhi⟩ : c.val ≥ 'A'.val ∧ c.val ≤ 'Z'.val := of_decide_eq_true hc
    have h1 : 65 ≤ c.toNat := by simpa [UInt32.le_iff_toNat_le] using hlo
    have h2 : c.toNat ≤ 90 := by simpa [UInt32.le_iff_toNat_le] using hhi
    rw [List.mem_range'_1]
    omega
  have := h c.toNat hn
  rwa [Char.ofNat_toNat] at this

/-- What does not tell a capital letter of ASCII from its small form does not tell any character from
its `toLower`. -/
lemma eq_toLower_of_ascii {β : Type} (f : Char → β)
    (h : ∀ n ∈ List.range' 65 26, f (Char.ofNat n) = f (Char.ofNat n).toLower) (c : Char) :
    f c = f c.toLower := by
  by_cases hc : c.isUpper = true
  · exact forall_of_isUpper (P := fun c => f c = f c.toLower) h hc
  · have hself : c.toLower = c := dif_neg fun hc' => hc (decide_eq_true hc')
    rw [hself]

lemma lowerOf_toLower (c : Char) : lowerOf c = lowerOf c.toLower :=
  eq_toLower_of_ascii lowerOf (by decide +kernel) c

lemma isCased_toLower (c : Char) : isCased c = isCased c.toLower :=
  eq_toLower_of_ascii isCased (by decide +kernel) c

lemma caseIgnorable_toLower (c : Char) :
    caseIgnorable.contains c = caseIgnorable.contains c.toLower :=
  eq_toLower_of_ascii caseIgnorable.contains (by decide +kernel) c

lemma isSigma_toLower (c : Char) : decide (c = 'Σ') = decide (c.toLower = 'Σ') :=
  eq_toLower_of_ascii (fun c => decide (c = 'Σ')) (by decide +kernel) c

lemma meetsCased_map_toLower (cs : List Char) :
    meetsCased (cs.map Char.toLower) = meetsCased cs := by
  induction cs with
  | nil => rfl
  | cons c rest ih =>
      by_cases hc : caseIgnorable.contains c = true
      · have hc' : caseIgnorable.contains c.toLower = true := by rwa [← caseIgnorable_toLower]
        simpa [meetsCased, hc, hc'] using ih
      · have hc' : ¬ caseIgnorable.contains c.toLower = true := by rwa [← caseIgnorable_toLower]
        simp [meetsCased, hc, hc', ← isCased_toLower]

/-- The small form of a run of characters does not depend on the case of their ASCII letters, nor on
that of the characters before. -/
lemma lowercaseAfter_map_toLower (before cs : List Char) :
    lowercaseAfter (before.map Char.toLower) (cs.map Char.toLower) = lowercaseAfter before cs := by
  induction cs generalizing before with
  | nil => rfl
  | cons c rest ih =>
      have hs : c.toLower = 'Σ' ↔ c = 'Σ' := by
        rw [← decide_eq_decide (p := c.toLower = 'Σ'), isSigma_toLower c]
      simp only [List.map_cons, lowercaseAfter, meetsCased_map_toLower, hs, ← lowerOf_toLower]
      rw [← List.map_cons, ih]

/-- **Same names have the same small form.** -/
theorem toLowercase_eq_of_sameName {a b : String} (h : sameName a b = true) :
    toLowercase a = toLowercase b := by
  rw [sameName_iff, foldAscii, foldAscii] at h
  rw [toLowercase, toLowercase, ← lowercaseAfter_map_toLower [] a.toList,
    ← lowercaseAfter_map_toLower [] b.toList, h]

end SchemaCompiler.Text

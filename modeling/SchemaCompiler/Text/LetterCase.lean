import SchemaCompiler.Text.LetterCase.Classes
import SchemaCompiler.Text.LetterCase.Mapping

/-!
# Case conversion of text

Case conversion of a text is the conversion of its characters, with one exception: a capital sigma
becomes the final small sigma when it ends a word.  It ends a word if a letter with case stands before
it and none after it, where characters that are `caseIgnorable` — points, apostrophes, accents — are
looked through on both sides.

* `lowercase`, `uppercase` — the two conversions.
* `foldAscii`, `sameName` — the comparison of names in SQL, which knows the 26 letters of ASCII only.
-/

namespace SchemaCompiler.Text

/-! ## Full conversion -/

/-- Whether a run of characters, read away from a sigma, meets a letter with case before anything
else that is not looked through. -/
def meetsCased (cs : List Char) : Bool :=
  match cs.dropWhile caseIgnorable.contains with
  | c :: _ => isCased c
  | [] => false

/-- The small form of a text; `before` holds the characters already converted, last one first. -/
def lowercaseAfter (before : List Char) : List Char → List Char
  | [] => []
  | c :: rest =>
    (if c = 'Σ' then [if meetsCased before && !meetsCased rest then 'ς' else 'σ'] else lowerOf c)
      ++ lowercaseAfter (c :: before) rest

/-- The small form of a text. -/
def toLowercase (s : String) : String := String.ofList (lowercaseAfter [] s.toList)

/-- The capital form of a text. -/
def toUppercase (s : String) : String := String.ofList (s.toList.flatMap upperOf)

/-! ## Names in SQL -/

/-- The small form of the 26 letters of ASCII, and every other character as it is. -/
def foldAscii (s : String) : List Char := s.toList.map Char.toLower

/-- Whether two names are the same name in SQL, which ignores the case of ASCII letters. -/
def sameName (a b : String) : Bool := foldAscii a == foldAscii b

/-- The capital form of the 26 letters of ASCII, and every other character as it is. -/
def toAsciiUppercase (s : String) : String := String.ofList (s.toList.map Char.toUpper)

/-- Equality up to ASCII case is an equivalence, being equality of the folded texts. -/
theorem sameName_iff {a b : String} : sameName a b = true ↔ foldAscii a = foldAscii b := by
  simp [sameName]

@[simp] theorem sameName_refl (a : String) : sameName a a = true := by simp [sameName]

theorem sameName_symm {a b : String} (h : sameName a b = true) : sameName b a = true :=
  sameName_iff.2 (sameName_iff.1 h).symm

theorem sameName_comm (a b : String) : sameName a b = sameName b a := by
  rw [Bool.eq_iff_iff, sameName_iff, sameName_iff, eq_comm]

theorem sameName_trans {a b c : String} (h : sameName a b = true) (h' : sameName b c = true) :
    sameName a c = true :=
  sameName_iff.2 ((sameName_iff.1 h).trans (sameName_iff.1 h'))

end SchemaCompiler.Text

import Mathlib.Data.List.DropRight
import SchemaCompiler.Proofs.Names
import SchemaCompiler.Text.WordCase

/-!
# Characters of the three spellings

What stands in `snake_case`, `camelCase` and `PascalCase` is known from the name that was converted: letters
and digits, which lose or gain a capital at most, and between the words of the first spelling underscores.
The first character is that of the first letter or digit of the name, so a spelling is empty exactly if the
name has none.

* `initial` — the first letter or digit of a name.
* `isAlphanumeric_toUpper`, `isNumeric_toUpper` — a capital is a letter or a digit as before.
* `head?_snakeCase`, `head?_camelCase`, `head?_pascalCase` — the first character of each spelling.
* `mem_snakeCase`, `mem_camelCase`, `mem_pascalCase` — the characters of each.
* `prefix_snakeCase`, `prefix_camelCase` — a word in small letters at the beginning stays there.
-/

namespace SchemaCompiler.Text

variable {c : Char} {cs word : List Char} {whole : Array Char} {offset : Nat} {fresh newWord found : Bool}
  {last : Char}

attribute [local simp] snakeFrom camelFrom

/-! ## Letters of ASCII -/

/-- A small letter of ASCII is one of 26 characters, so a statement about all of them can be computed. -/
lemma forall_of_isLower {P : Char → Prop} (h : ∀ n ∈ List.range' 97 26, P (Char.ofNat n)) {c : Char}
    (hc : c.isLower = true) : P c := by
  have hn : c.toNat ∈ List.range' 97 26 := by
    obtain ⟨hlo, hhi⟩ := Bool.and_eq_true_iff.1 hc
    have h1 : 97 ≤ c.toNat := by simpa [UInt32.le_iff_toNat_le] using hlo
    have h2 : c.toNat ≤ 122 := by simpa [UInt32.le_iff_toNat_le] using hhi
    rw [List.mem_range'_1]
    omega
  have := h c.toNat hn
  rwa [Char.ofNat_toNat] at this

lemma toUpper_of_not_isLower (hc : ¬ c.isLower = true) : c.toUpper = c :=
  dif_neg fun hc' => hc (Bool.and_eq_true_iff.2 ⟨decide_eq_true hc'.1, decide_eq_true hc'.2⟩)

/-- What a small letter of ASCII and its capital are. -/
lemma kinds_of_isLower (hc : c.isLower = true) : c.toLower = c ∧ c.toUpper.isLower = false ∧
    (isAlphanumeric c = true ∧ isAlphanumeric c.toUpper = true) ∧
    (isNumeric c = false ∧ isNumeric c.toUpper = false) ∧ isUppercase c = false ∧ isUnraised c = false :=
  forall_of_isLower (P := fun c => c.toLower = c ∧ c.toUpper.isLower = false ∧
    (isAlphanumeric c = true ∧ isAlphanumeric c.toUpper = true) ∧
    (isNumeric c = false ∧ isNumeric c.toUpper = false) ∧ isUppercase c = false ∧ isUnraised c = false)
    (by decide +kernel) hc

lemma isAlphanumeric_toUpper (c : Char) : isAlphanumeric c.toUpper = isAlphanumeric c := by
  by_cases hc : c.isLower = true
  · obtain ⟨-, -, ⟨hsmall, hcapital⟩, -⟩ := kinds_of_isLower hc
    rw [hsmall, hcapital]
  · rw [toUpper_of_not_isLower hc]

lemma isNumeric_toUpper (c : Char) : isNumeric c.toUpper = isNumeric c := by
  by_cases hc : c.isLower = true
  · obtain ⟨-, -, -, ⟨hsmall, hcapital⟩, -⟩ := kinds_of_isLower hc
    rw [hsmall, hcapital]
  · rw [toUpper_of_not_isLower hc]

lemma isAlphanumeric_toLower (c : Char) : isAlphanumeric c.toLower = isAlphanumeric c :=
  (eq_toLower_of_ascii isAlphanumeric (by decide +kernel) c).symm

/-- No capital is a small letter of ASCII. -/
lemma isLower_toUpper (c : Char) : c.toUpper.isLower = false := by
  by_cases hc : c.isLower = true
  · exact (kinds_of_isLower hc).2.1
  · rw [toUpper_of_not_isLower hc]
    simpa using hc

lemma toLower_of_isLower (hc : c.isLower = true) : c.toLower = c := (kinds_of_isLower hc).1

/-- A small letter of ASCII begins no word by itself. -/
lemma inner_of_isLower (hc : c.isLower = true) :
    isSeparator c = false ∧ isNumeric c = false ∧ isUppercase c = false ∧ isUnraised c = false := by
  obtain ⟨-, -, ⟨hletter, -⟩, ⟨hnumeric, -⟩, hcapital, hraised⟩ := kinds_of_isLower hc
  exact ⟨by rw [isSeparator, hletter, Bool.not_true], hnumeric, hcapital, hraised⟩

/-- No number is a small letter of ASCII. -/
lemma isLower_of_isNumeric (hc : isNumeric c = true) : c.isLower = false := by
  by_contra hlower
  rw [(inner_of_isLower (by simpa using hlower)).2.1] at hc
  cases hc

/-! ## The first letter or digit -/

/-- The first letter or digit of a name. -/
def initial (s : String) : Option Char := s.toList.find? isAlphanumeric

/-- What is trimmed at the end is all of a kind. -/
lemma exists_dropWhileEnd (p : Char → Bool) (cs : List Char) :
    ∃ trimmed, cs = dropWhileEnd p cs ++ trimmed ∧ ∀ c ∈ trimmed, p c = true :=
  ⟨cs.rtakeWhile p, List.rdropWhile_append_rtakeWhile.symm, fun _ => List.mem_rtakeWhile_imp⟩

/-- What is not to be trimmed stays in front. -/
lemma prefix_dropWhileEnd {p : Char → Bool} (h : ∀ c ∈ word, p c = false) (cs : List Char) :
    word <+: dropWhileEnd p (word ++ cs) := by
  obtain ⟨trimmed, hsplit, htrimmed⟩ := exists_dropWhileEnd p (word ++ cs)
  rcases List.append_eq_append_iff.1 hsplit with ⟨rest, hrest, -⟩ | ⟨rest, hword, hrest⟩
  · exact ⟨rest, hrest.symm⟩
  · have hempty : rest = [] := List.eq_nil_iff_forall_not_mem.2 fun c hc => by
      have hkept := h c (hword ▸ List.mem_append_right _ hc)
      rw [htrimmed c (hrest ▸ List.mem_append_left _ hc)] at hkept
      cases hkept
    rw [hempty, List.append_nil] at hword
    exact hword ▸ List.prefix_refl _

lemma find?_dropWhileEnd (cs : List Char) :
    (dropWhileEnd isSeparator cs).find? isAlphanumeric = cs.find? isAlphanumeric := by
  obtain ⟨trimmed, hsplit, htrimmed⟩ := exists_dropWhileEnd isSeparator cs
  have hnone : trimmed.find? isAlphanumeric = none := List.find?_eq_none.2 fun c hc => by
    simpa [isSeparator] using htrimmed c hc
  conv_rhs => rw [hsplit, List.find?_append, hnone, Option.or_none]

/-! ## Words joined by underscores -/

lemma mem_snakeFrom (h : c ∈ snakeFrom whole offset fresh cs) : c = '_' ∨ isAlphanumeric c = true := by
  induction cs generalizing offset fresh with
  | nil => cases h
  | cons d rest ih =>
      have hword : isSeparator d = false → isAlphanumeric d.toLower = true := fun hd => by
        rw [isAlphanumeric_toLower]
        simpa [isSeparator] using hd
      simp only [snakeFrom] at h
      split_ifs at h with hseparator hfresh hboundary
      · exact ih h
      · exact (List.mem_cons.1 h).elim .inl ih
      · rcases List.mem_cons.1 h with rfl | h
        · exact .inl rfl
        · exact (List.mem_cons.1 h).elim (fun e => .inr (e ▸ hword (by simpa using hseparator))) ih
      · exact (List.mem_cons.1 h).elim (fun e => .inr (e ▸ hword (by simpa using hseparator))) ih

lemma head?_snakeFrom : (snakeFrom whole offset true cs).head? =
    (cs.find? isAlphanumeric).map Char.toLower := by
  induction cs generalizing offset with
  | nil => rfl
  | cons d rest ih =>
      by_cases hd : isAlphanumeric d = true
      · simp [isSeparator, hd]
      · simp [isSeparator, hd, ih]

lemma prefix_snakeFrom (h : ∀ c ∈ word, c.isLower = true) :
    word <+: snakeFrom whole offset fresh (word ++ cs) := by
  induction word generalizing offset fresh with
  | nil => exact List.nil_prefix
  | cons d rest ih =>
      obtain ⟨hd, hrest⟩ := List.forall_mem_cons.1 h
      obtain ⟨hseparator, -, -, hraised⟩ := inner_of_isLower hd
      simpa [hseparator, hraised, toLower_of_isLower hd] using ih hrest

/-! ## Words set off by capitals -/

lemma mem_camelFrom (h : c ∈ camelFrom newWord last found cs) : isAlphanumeric c = true := by
  induction cs generalizing newWord last found with
  | nil => cases h
  | cons d rest ih =>
      rw [camelFrom] at h
      split_ifs at h with hseparator hnumeric hcapital
      · exact ih h
      all_goals
        have hd : isAlphanumeric d = true := by simpa [isSeparator] using hseparator
        rcases List.mem_cons.1 h with rfl | h
      · exact hd
      · exact ih h
      · rwa [isAlphanumeric_toUpper]
      · exact ih h
      · rwa [isAlphanumeric_toLower]
      · exact ih h

lemma head?_camelFrom : (camelFrom newWord ' ' false cs).head? = (cs.find? isAlphanumeric).map
    fun c => if isNumeric c then c else if newWord then c.toUpper else c.toLower := by
  induction cs with
  | nil => rfl
  | cons d rest ih =>
      by_cases hd : isAlphanumeric d = true
      · rw [camelFrom, if_neg (by simp [isSeparator, hd]), List.find?_cons_of_pos hd]
        split_ifs <;> simp_all
      · rw [camelFrom, if_pos (by simp [isSeparator, hd]), List.find?_cons_of_neg hd, Bool.or_false, ih]

lemma prefix_camelFrom (h : ∀ c ∈ word, c.isLower = true) :
    word <+: camelFrom false last found (word ++ cs) := by
  induction word generalizing last found with
  | nil => exact List.nil_prefix
  | cons d rest ih =>
      obtain ⟨hd, hrest⟩ := List.forall_mem_cons.1 h
      obtain ⟨hseparator, hnumeric, hcapital, -⟩ := inner_of_isLower hd
      simpa [hseparator, hnumeric, hcapital, toLower_of_isLower hd] using ih hrest

/-! ## Names -/

section Names

variable {s : String}

lemma mem_snakeCase (h : c ∈ (snakeCase s).toList) : c = '_' ∨ isAlphanumeric c = true := by
  rw [snakeCase, String.toList_ofList] at h
  exact mem_snakeFrom h

lemma mem_camelCase (h : c ∈ (camelCase s).toList) : isAlphanumeric c = true := by
  rw [camelCase, String.toList_ofList] at h
  exact mem_camelFrom h

lemma mem_pascalCase (h : c ∈ (pascalCase s).toList) : isAlphanumeric c = true := by
  rw [pascalCase, String.toList_ofList] at h
  exact mem_camelFrom h

/-- **The first character** of a spelling is that of the first letter or digit. -/
lemma head?_snakeCase (s : String) : (snakeCase s).toList.head? = (initial s).map Char.toLower := by
  rw [snakeCase, String.toList_ofList, head?_snakeFrom, find?_dropWhileEnd, initial]

@[inherit_doc head?_snakeCase]
lemma head?_camelCase (s : String) : (camelCase s).toList.head? =
    (initial s).map fun c => if isNumeric c then c else c.toLower := by
  rw [camelCase, String.toList_ofList, head?_camelFrom, find?_dropWhileEnd, initial]
  rfl

@[inherit_doc head?_snakeCase]
lemma head?_pascalCase (s : String) : (pascalCase s).toList.head? =
    (initial s).map fun c => if isNumeric c then c else c.toUpper := by
  rw [pascalCase, String.toList_ofList, head?_camelFrom, find?_dropWhileEnd, initial]
  rfl

/-- **A word in small letters** at the beginning of a name is also there in the spelling. -/
lemma prefix_snakeCase (h : ∀ c ∈ word, c.isLower = true) (hs : word <+: s.toList) :
    word <+: (snakeCase s).toList := by
  obtain ⟨rest, hrest⟩ := hs
  obtain ⟨rest', hrest'⟩ := prefix_dropWhileEnd (fun c hc => (inner_of_isLower (h c hc)).1) rest
  rw [snakeCase, String.toList_ofList, ← hrest, ← hrest']
  exact prefix_snakeFrom h

@[inherit_doc prefix_snakeCase]
lemma prefix_camelCase (h : ∀ c ∈ word, c.isLower = true) (hs : word <+: s.toList) :
    word <+: (camelCase s).toList := by
  obtain ⟨rest, hrest⟩ := hs
  obtain ⟨rest', hrest'⟩ := prefix_dropWhileEnd (fun c hc => (inner_of_isLower (h c hc)).1) rest
  rw [camelCase, String.toList_ofList, ← hrest, ← hrest']
  exact prefix_camelFrom h

end Names

end SchemaCompiler.Text

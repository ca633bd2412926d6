/-!
# Cutting and joining text

Everything the compiler does to text it does to the list of its characters, so that each operation is
a recursion with a law.  The operations on `String` at the end of each section are the ones the rest
of the library calls.

* `splitLines` / `lines` — the lines of a text; a carriage return before a line feed belongs to the
  line end, and a line end at the very end opens no further line.
* `replaceAll` / `replace` — every occurrence of a text, from left to right and without overlap.
* `occursIn` / `contains` — whether a text occurs in another.
* `splitOnce` — the parts before and after the first occurrence of a character.
* `dropWhileEnd` / `trimEndWhile` — trimming by a class of characters.
* `byteCount`, `decimal`, `hexNumber`, `digitsValue` — sizes and numbers.
-/

namespace SchemaCompiler.Text

/-! ## Lines -/

/-- The lines of a text, without their line ends. -/
def splitLines : List Char → List (List Char)
  | [] => []
  | '\n' :: rest => [] :: splitLines rest
  | '\r' :: '\n' :: rest => [] :: splitLines rest
  | c :: rest =>
    match splitLines rest with
    | [] => [[c]]
    | l :: ls => (c :: l) :: ls

/-- The lines of a text, without their line ends. -/
def lines (s : String) : List String := (splitLines s.toList).map String.ofList

/-! ## Finding and replacing -/

/-- Whether `pattern` occurs in a text as a run of consecutive characters. -/
def occursIn (pattern : List Char) : List Char → Bool
  | [] => pattern.isEmpty
  | c :: rest => pattern.isPrefixOf (c :: rest) || occursIn pattern rest

/-- Whether `pattern` occurs in `s`. -/
def contains (s pattern : String) : Bool := occursIn pattern.toList s.toList

/-- Replaces occurrences of `pattern` after first passing over `skip` characters, which are the rest
of an occurrence that has already been replaced. -/
def replaceFrom (pattern image : List Char) : Nat → List Char → List Char
  | _, [] => []
  | skip + 1, _ :: rest => replaceFrom pattern image skip rest
  | 0, c :: rest =>
    if pattern.isPrefixOf (c :: rest) then
      image ++ replaceFrom pattern image (pattern.length - 1) rest
    else c :: replaceFrom pattern image 0 rest

/-- Every occurrence of a non-empty `pattern`, from left to right and without overlap, becomes
`image`. -/
def replaceAll (pattern image text : List Char) : List Char := replaceFrom pattern image 0 text

/-- Every occurrence of a non-empty `pattern` in `s` becomes `image`. -/
def replace (s pattern image : String) : String :=
  String.ofList (replaceAll pattern.toList image.toList s.toList)

/-! ## Splitting -/

/-- The parts before and after the first `separator`, if there is one. -/
def splitAtFirst (separator : Char) : List Char → Option (List Char × List Char)
  | [] => none
  | c :: rest =>
    if c = separator then some ([], rest)
    else (splitAtFirst separator rest).map fun (before, after) => (c :: before, after)

/-- The parts of `s` before and after the first `separator`, if there is one. -/
def splitOnce (s : String) (separator : Char) : Option (String × String) :=
  (splitAtFirst separator s.toList).map fun (before, after) =>
    (String.ofList before, String.ofList after)

/-- The text before the first `separator`, or all of it. -/
def upTo (separator : Char) (s : String) : String :=
  String.ofList (s.toList.takeWhile (· != separator))

/-- The pieces between the separators; there is always at least one. -/
def splitPieces (separator : Char) : List Char → List (List Char)
  | [] => [[]]
  | c :: rest =>
    if c = separator then [] :: splitPieces separator rest
    else
      match splitPieces separator rest with
      | [] => [[c]]
      | p :: ps => (c :: p) :: ps

/-- The pieces of `s` between the separators; there is always at least one. -/
def pieces (separator : Char) (s : String) : List String :=
  (splitPieces separator s.toList).map String.ofList

/-! ## Trimming -/

/-- Without the longest end whose characters all satisfy `p`. -/
def dropWhileEnd (p : Char → Bool) (cs : List Char) : List Char := (cs.reverse.dropWhile p).reverse

/-- Without the longest ends on both sides whose characters all satisfy `p`. -/
def trimBoth (p : Char → Bool) (cs : List Char) : List Char := dropWhileEnd p (cs.dropWhile p)

/-- `s` without the longest end whose characters all satisfy `p`. -/
def trimEndWhile (p : Char → Bool) (s : String) : String := String.ofList (dropWhileEnd p s.toList)

/-- `s` without the longest ends on both sides whose characters all satisfy `p`. -/
def trimWhile (p : Char → Bool) (s : String) : String := String.ofList (trimBoth p s.toList)

/-! ## Sizes -/

/-- The number of bytes that characters take. -/
def byteCount (cs : List Char) : Nat := cs.foldl (fun n c => n + c.utf8Size) 0

/-! ## Numbers -/

/-- A natural number in decimal digits. -/
def decimal (n : Nat) : String := String.ofList (Nat.toDigits 10 n)

/-- A natural number in decimal digits, with zeros in front up to `width` characters. -/
def paddedDecimal (width n : Nat) : String :=
  let digits := Nat.toDigits 10 n
  String.ofList (List.replicate (width - digits.length) '0' ++ digits)

/-- The value of a hexadecimal digit. -/
def hexValue (c : Char) : Option Nat :=
  if c.isDigit then some (c.toNat - '0'.toNat)
  else if 'a' ≤ c ∧ c ≤ 'f' then some (c.toNat - 'a'.toNat + 10)
  else if 'A' ≤ c ∧ c ≤ 'F' then some (c.toNat - 'A'.toNat + 10)
  else none

/-- The value of a run of hexadecimal digits, if they are all digits. -/
def hexNumber (digits : List Char) : Option Nat :=
  digits.foldlM (fun n c => (hexValue c).map (n * 16 + ·)) 0

/-- The value of a run of decimal digits. -/
def digitsValue (cs : List Char) : Nat :=
  cs.foldl (fun n c => n * 10 + (c.toNat - '0'.toNat)) 0

end SchemaCompiler.Text

/-!
# MD5

The 128-bit digest that shortens long identifiers.  It is used only to make two long names with a
common beginning differ, so no security rests on it.

The text's bytes are followed by the byte `0x80`, by zeros up to 56 modulo 64, and by the length in
bits; each block of 64 bytes is then mixed into a state of four words in 64 steps.

* `State`, `Step` — the four words and the constants of one step.
* `digest` — the four words after the last block.
* `hexDigest` — the digest as 32 hexadecimal digits, low byte first within each word.
-/

namespace SchemaCompiler.Digest.Md5

/-- The four words of the digest. -/
structure State where
  a : UInt32
  b : UInt32
  c : UInt32
  d : UInt32

/-- The words before the first block. -/
def State.start : State := ⟨0x67452301, 0xEFCDAB89, 0x98BADCFE, 0x10325476⟩

/-- The constant and the rotation of each of the 64 steps. -/
def steps : List (UInt32 × UInt32) :=
  [0xD76AA478, 0xE8C7B756, 0x242070DB, 0xC1BDCEEE, 0xF57C0FAF, 0x4787C62A, 0xA8304613, 0xFD469501,
   0x698098D8, 0x8B44F7AF, 0xFFFF5BB1, 0x895CD7BE, 0x6B901122, 0xFD987193, 0xA679438E, 0x49B40821,
   0xF61E2562, 0xC040B340, 0x265E5A51, 0xE9B6C7AA, 0xD62F105D, 0x02441453, 0xD8A1E681, 0xE7D3FBC8,
   0x21E1CDE6, 0xC33707D6, 0xF4D50D87, 0x455A14ED, 0xA9E3E905, 0xFCEFA3F8, 0x676F02D9, 0x8D2A4C8A,
   0xFFFA3942, 0x8771F681, 0x6D9D6122, 0xFDE5380C, 0xA4BEEA44, 0x4BDECFA9, 0xF6BB4B60, 0xBEBFBC70,
   0x289B7EC6, 0xEAA127FA, 0xD4EF3085, 0x04881D05, 0xD9D4D039, 0xE6DB99E5, 0x1FA27CF8, 0xC4AC5665,
   0xF4292244, 0x432AFF97, 0xAB9423A7, 0xFC93A039, 0x655B59C3, 0x8F0CCC92, 0xFFEFF47D, 0x85845DD1,
   0x6FA87E4F, 0xFE2CE6E0, 0xA3014314, 0x4E0811A1, 0xF7537E82, 0xBD3AF235, 0x2AD7D2BB, 0xEB86D391].zip
  ([[7, 12, 17, 22], [5, 9, 14, 20], [4, 11, 16, 23], [6, 10, 15, 21]].flatMap fun round =>
    round ++ round ++ round ++ round)

/-- A word turned to the left by `n` places, `0 < n < 32`. -/
def rotateLeft (w n : UInt32) : UInt32 := (w <<< n) ||| (w >>> (32 - n))

/-- The mixing function of step `i` and the place in the block of the word it adds. -/
def mixed (s : State) (i : Nat) : UInt32 × Nat :=
  if i < 16 then ((s.b &&& s.c) ||| (~~~s.b &&& s.d), i)
  else if i < 32 then ((s.d &&& s.b) ||| (~~~s.d &&& s.c), (5 * i + 1) % 16)
  else if i < 48 then (s.b ^^^ s.c ^^^ s.d, (3 * i + 5) % 16)
  else (s.c ^^^ (s.b ||| ~~~s.d), (7 * i) % 16)

/-- One step on one block of sixteen words. -/
def State.step (block : List UInt32) (s : State) (step : (UInt32 × UInt32) × Nat) : State :=
  let ((constant, turn), i) := step
  let (f, place) := mixed s i
  let sum := f + s.a + constant + block.getD place 0
  ⟨s.d, s.b + rotateLeft sum turn, s.b, s.c⟩

/-- The state after one more block. -/
def State.absorb (s : State) (block : List UInt32) : State :=
  let t := steps.zipIdx.foldl (State.step block) s
  ⟨s.a + t.a, s.b + t.b, s.c + t.c, s.d + t.d⟩

/-- Bytes in groups of four as words, low byte first. -/
def wordsOf : List UInt8 → List UInt32
  | a :: b :: c :: d :: rest =>
    (a.toUInt32 ||| (b.toUInt32 <<< 8) ||| (c.toUInt32 <<< 16) ||| (d.toUInt32 <<< 24)) ::
      wordsOf rest
  | _ => []

/-- The low `count` bytes of a number, low byte first. -/
def bytesOf (n : Nat) : Nat → List UInt8
  | 0 => []
  | count + 1 => UInt8.ofNat (n % 256) :: bytesOf (n / 256) count

/-- The bytes with the mark, the zeros and the length that fill the last block. -/
def padded (bytes : List UInt8) : List UInt8 :=
  let zeros := (119 - bytes.length % 64) % 64
  bytes ++ 0x80 :: List.replicate zeros 0 ++ bytesOf (8 * bytes.length) 8

/-- Absorbs the words sixteen at a time, `count` times. -/
def absorbBlocks : Nat → State → List UInt32 → State
  | 0, s, _ => s
  | count + 1, s, words => absorbBlocks count (s.absorb (words.take 16)) (words.drop 16)

/-- The four words after the last block. -/
def digest (bytes : List UInt8) : State :=
  let words := wordsOf (padded bytes)
  absorbBlocks (words.length / 16) .start words

/-- A byte as two hexadecimal digits. -/
def hexByte (b : UInt8) : List Char :=
  [Nat.digitChar (b.toNat / 16), Nat.digitChar (b.toNat % 16)]

/-- The digest of a text's UTF-8 bytes as 32 hexadecimal digits. -/
def hexDigest (s : String) : String :=
  let d := digest s.toUTF8.toList
  String.ofList ([d.a, d.b, d.c, d.d].flatMap fun w => (bytesOf w.toNat 4).flatMap hexByte)

end SchemaCompiler.Digest.Md5

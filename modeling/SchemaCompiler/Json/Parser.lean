import SchemaCompiler.Json.Basic
import SchemaCompiler.Json.Fault

/-!
# Reading JSON

The grammar of JSON, read from the front of a list of characters.  Each reader returns what it read
and the characters that are left, or stops at the first character that the grammar does not allow.

A long number keeps as many leading digits as fit into 64 bits and counts the others in its exponent;
it is then scaled by a power of ten, both rounded to doubles.  A number too large for a double is
refused.

* `readString`, `readNumber` — the leaves.
* `readValue` — any value; `depth` is the number of brackets that may still be opened.
* `Json.parse` — a whole text.
-/

namespace SchemaCompiler.Json

open Text

/-! ## Blanks and strings -/

/-- Characters that may stand between the parts of a text. -/
def isGap (c : Char) : Bool := c == ' ' || c == '\n' || c == '\r' || c == '\t'

/-- The text from its first character that is no gap on. -/
def skipGap (cs : List Char) : List Char := cs.dropWhile isGap

/-- Whether a code unit is the first half of a pair. -/
def isLeading (n : Nat) : Bool := 0xD800 ≤ n && n ≤ 0xDBFF

/-- Whether a code unit is the second half of a pair. -/
def isTrailing (n : Nat) : Bool := 0xDC00 ≤ n && n ≤ 0xDFFF

/-- The character that a letter stands for behind a backslash. -/
def shortEscape : Char → Option Char
  | '"' => some '"'
  | '\\' => some '\\'
  | '/' => some '/'
  | 'b' => some '\x08'
  | 'f' => some '\x0c'
  | 'n' => some '\n'
  | 'r' => some '\r'
  | 't' => some '\t'
  | _ => none

/-- The character that two halves of a pair stand for. -/
def pairChar (hi lo : Nat) : Char :=
  Char.ofNat (0x10000 + (hi - 0xD800) * 0x400 + (lo - 0xDC00))

/-- Puts a character in front of what was read. -/
def consRead (c : Char) (r : Reading (List Char)) : Reading (List Char) :=
  r.map fun (s, left) => (c :: s, left)

/-- Stops at the digits of an escape, of which there must be four, each of one byte. -/
def stopInEscape (digits : List Char) : Reading (List Char) :=
  if byteCount (digits.take 4) < 4 then stopAtEnd .unfinishedString
  else .error ⟨.unknownEscape, digits, 4⟩

/-- The rest of a string behind its opening quote.  `pending` is the first half of a pair that has
been read; only its second half may follow. -/
def readString (pending : Option Nat) : List Char → Reading (List Char)
  | [] => stopAtEnd .unfinishedString
  | '\\' :: 'u' :: a :: b :: c :: d :: rest =>
    match hexNumber [a, b, c, d], pending with
    | none, _ => stopInEscape (a :: b :: c :: d :: rest)
    | some n, some hi =>
      if isTrailing n then consRead (pairChar hi n) (readString none rest)
      else stopBefore .loneSurrogate rest
    | some n, none =>
      if isLeading n then readString (some n) rest
      else if isTrailing n then stopBefore .loneSurrogate rest
      else consRead (Char.ofNat n) (readString none rest)
  | '\\' :: 'u' :: rest => stopInEscape rest
  | '\\' :: e :: rest =>
    match shortEscape e, pending with
    | _, some _ => stopAt .unfinishedPair (e :: rest)
    | some c, none => consRead c (readString none rest)
    | none, none => stopAt .unknownEscape (e :: rest)
  | ['\\'] => stopAtEnd .unfinishedString
  | c :: rest =>
    if pending.isSome then stopAt .unfinishedPair (c :: rest)
    else if c.toNat < 0x20 then stopAt .controlCharacter (c :: rest)
    else if c = '"' then .ok ([], rest)
    else consRead c (readString none rest)

/-! ## Numbers -/

/-- The largest number that the digits of a long number may reach. -/
def digitLimit : Nat := twoTo 64 - 1

/-- Reads digits into `n` as long as it stays within the limit; the digits from the first one that
does not fit on are left. -/
def takeDigits (n : Nat) : List Char → Nat × List Char
  | [] => (n, [])
  | c :: rest =>
    let next := n * 10 + (c.toNat - '0'.toNat)
    if next ≤ digitLimit then takeDigits next rest else (n, c :: rest)

/-- Divides by the largest power of ten in one step, which takes away 308 from the size of a negative
exponent, until the rest can be done by one division. -/
def scaleDownBy (x : Binary64) : Nat → Nat → Binary64
  | 0, _ => .zero x.negative
  | fuel + 1, e =>
    let divided (k : Nat) : Binary64 :=
      let (n, d) := x.ratio
      match Binary64.nearest false (tenTo k) 1 with
      | some p => (Binary64.nearest x.negative (n * p.ratio.2) (d * p.ratio.1)).getD (.zero x.negative)
      | none => .zero x.negative
    if e ≤ 308 then divided e
    else if x.isZero then x
    else scaleDownBy (divided 308) fuel (e - 308)

/-- `digits · 10 ^ exponent`, where the digits and the power of ten are rounded before they are
multiplied.  A number that is too large is refused. -/
def scaled (negative : Bool) (digits : Nat) (exponent : Int) : Option Binary64 := do
  let x ← Binary64.nearest negative digits 1
  if exponent < 0 then return scaleDownBy x 8 exponent.natAbs
  else if exponent ≤ 308 then
    let p ← Binary64.nearest false (tenTo exponent.toNat) 1
    Binary64.nearest negative (x.ratio.1 * p.ratio.1) (x.ratio.2 * p.ratio.2)
  else if x.isZero then return x
  else none

/-- The digits at the front of a text, at least one of them. -/
def readDigits (cs : List Char) : Reading (List Char) :=
  let digits := cs.takeWhile Char.isDigit
  if cs.isEmpty then stopAtEnd .unfinishedValue
  else if digits.isEmpty then stopAt .malformedNumber cs
  else .ok (digits, cs.dropWhile Char.isDigit)

/-- The digits before a point: a zero stands alone. -/
def readWhole : List Char → Reading (List Char)
  | '0' :: rest =>
    if (rest.headD ' ').isDigit then stopAt .malformedNumber rest else .ok (['0'], rest)
  | cs => readDigits cs

/-- The digits behind a point, if there is one. -/
def readFraction : List Char → Reading (Option (List Char))
  | '.' :: rest => (readDigits rest).map fun (digits, left) => (some digits, left)
  | cs => .ok (none, cs)

/-- The sign of an exponent and the text from its digits on. -/
def exponentSign : List Char → Int × List Char
  | '+' :: rest => (1, rest)
  | '-' :: rest => (-1, rest)
  | rest => (1, rest)

/-- The exponent, if there is one. -/
def readExponent : List Char → Reading (Option Int)
  | e :: rest =>
    if e = 'e' || e = 'E' then
      let (sign, digits) := exponentSign rest
      (readDigits digits).map fun (digits, left) => (some (sign * (digitsValue digits : Int)), left)
    else .ok (none, e :: rest)
  | [] => .ok (none, [])

/-- The largest exponent whose digits are all looked at before the number is refused. -/
def exponentLimit : Nat := 2147483647

/-- The text behind the digit that carries an exponent over the limit, or behind all digits. -/
def behindExponent (n : Nat) : List Char → List Char
  | [] => []
  | c :: rest =>
    if c.isDigit then
      let next := n * 10 + (c.toNat - '0'.toNat)
      if next ≤ exponentLimit then behindExponent next rest else rest
    else c :: rest

/-- The text before which a number is found to be too large; `cs` begins with its exponent, if it has
one. -/
def behindTooLarge : List Char → List Char
  | [] => []
  | e :: rest =>
    if e = 'e' || e = 'E' then behindExponent 0 (exponentSign rest).2 else e :: rest

/-- The value of a number with a fraction, an exponent, or too many digits. -/
def longNumber (negative : Bool) (whole fraction : List Char) (exponent : Int) : Option Json :=
  let (head, extra) := takeDigits 0 whole
  let (digits, unread) := takeDigits head fraction
  (scaled negative digits
    (extra.length - (fraction.length - unread.length : Nat) + exponent)).map .float

/-- The value of a number without fraction and exponent. -/
def wholeNumber (negative : Bool) (whole : List Char) : Option Json :=
  let n : Int := digitsValue whole
  if !negative then if n ≤ largestInt then some (.int n) else longNumber negative whole [] 0
  else if n = 0 then some (.float (.zero true))
  else if leastInt ≤ -n then some (.int (-n))
  else longNumber negative whole [] 0

/-- A number behind its sign. -/
def readNumber (negative : Bool) (cs : List Char) : Except Stop (Json × List Char) := do
  let (whole, rest) ← readWhole cs
  let (fraction, rest) ← readFraction rest
  let (exponent, left) ← readExponent rest
  let value :=
    if fraction.isNone && exponent.isNone then wholeNumber negative whole
    else longNumber negative whole (fraction.getD []) (exponent.getD 0)
  match value with
  | some value => .ok (value, left)
  | none => stopBefore .numberTooLarge (behindTooLarge rest)

/-! ## Values -/

/-- A value that is written as a word; `rest` is what of the word has not been read yet. -/
def readWord (value : Json) : List Char → List Char → Reading Json
  | [], cs => .ok (value, cs)
  | _ :: _, [] => stopAtEnd .unfinishedValue
  | w :: rest, c :: cs => if w = c then readWord value rest cs else stopAt .misspeltWord (c :: cs)

mutual

/-- A value, with gaps before it.  `depth` is the number of brackets that may still be opened. -/
def readValue : Nat → Nat → List Char → Reading Json
  | 0, _, cs => stopAt .nestedTooDeeply cs
  | fuel + 1, depth, cs =>
    match skipGap cs with
    | [] => stopAtEnd .unfinishedValue
    | '"' :: rest => (readString none rest).map fun (s, left) => (.string (String.ofList s), left)
    | '-' :: rest => readNumber true rest
    | 'n' :: rest => readWord .null ['u', 'l', 'l'] rest
    | 't' :: rest => readWord (.bool true) ['r', 'u', 'e'] rest
    | 'f' :: rest => readWord (.bool false) ['a', 'l', 's', 'e'] rest
    | '[' :: rest =>
      match depth with
      | 0 => stopAt .nestedTooDeeply ('[' :: rest)
      | depth + 1 =>
        match skipGap rest with
        | [] => stopAtEnd .unfinishedArray
        | ']' :: rest => .ok (.array [], rest)
        | rest => (readItems fuel depth rest).map fun (xs, left) => (.array xs, left)
    | '\x7b' :: rest =>
      match depth with
      | 0 => stopAt .nestedTooDeeply ('\x7b' :: rest)
      | depth + 1 =>
        match skipGap rest with
        | [] => stopAtEnd .unfinishedObject
        | '\x7d' :: rest => .ok (.object [], rest)
        | rest => (readFields fuel depth rest).map fun (fields, left) => (ofFields fields, left)
    | c :: rest => if c.isDigit then readNumber false (c :: rest) else stopAt .missingValue (c :: rest)

/-- The items of an array behind its opening bracket, at least one. -/
def readItems : Nat → Nat → List Char → Reading (List Json)
  | 0, _, cs => stopAt .nestedTooDeeply cs
  | fuel + 1, depth, cs =>
    match readValue fuel depth cs with
    | .error stop => .error stop
    | .ok (x, rest) =>
      match skipGap rest with
      | [] => stopAtEnd .unfinishedArray
      | ']' :: rest => .ok ([x], rest)
      | ',' :: rest =>
        match skipGap rest with
        | [] => stopAtEnd .unfinishedValue
        | ']' :: rest => stopAt .trailingComma (']' :: rest)
        | rest => (readItems fuel depth rest).map fun (xs, left) => (x :: xs, left)
      | rest => stopAt .missingItemEnd rest

/-- The fields of an object behind its opening bracket, at least one; no gap stands before them. -/
def readFields : Nat → Nat → List Char → Reading (List (String × Json))
  | 0, _, cs => stopAt .nestedTooDeeply cs
  | fuel + 1, depth, cs =>
    match cs with
    | '"' :: rest =>
      match readString none rest with
      | .error stop => .error stop
      | .ok (key, rest) =>
        match skipGap rest with
        | [] => stopAtEnd .unfinishedObject
        | ':' :: rest =>
          match readValue fuel depth rest with
          | .error stop => .error stop
          | .ok (value, rest) =>
            match skipGap rest with
            | [] => stopAtEnd .unfinishedObject
            | '\x7d' :: rest => .ok ([(String.ofList key, value)], rest)
            | ',' :: rest =>
              match skipGap rest with
              | [] => stopAtEnd .unfinishedValue
              | '\x7d' :: rest => stopAt .trailingComma ('\x7d' :: rest)
              | rest =>
                (readFields fuel depth rest).map fun (fields, left) =>
                  ((String.ofList key, value) :: fields, left)
            | rest => stopAt .missingFieldEnd rest
        | rest => stopAt .missingColon rest
    | rest => stopAt .keyNotString rest

end

/-- The deepest nesting of brackets that is read. -/
def deepest : Nat := 127

/-- A value and nothing but gaps behind it. -/
def readText (cs : List Char) : Except Stop Json := do
  let (value, rest) ← readValue (2 * cs.length + 2) deepest cs
  match skipGap rest with
  | [] => return value
  | rest => throw ⟨.trailingText, rest, 1⟩

/-- The value that a whole text stands for. -/
def parse (text : String) : Except ReadError Json :=
  (readText text.toList).mapError (·.toError text.toList)

end SchemaCompiler.Json

import SchemaCompiler.Toml.Basic
import SchemaCompiler.Toml.Text

/-!
# Numbers and dates in TOML

A value that begins with a digit or a sign is a date or a time if it begins like one, and a number
otherwise.  Underscores may stand between the digits of a number and mean nothing; a number in base
ten does not begin with a zero unless that is its only digit before the point.

* `readMoment` — dates and times.
* `readNumber` — numbers in all bases, with fractions and exponents, infinite ones included.
* `readNumeric` — either.
-/

namespace SchemaCompiler.Toml

/-! ## Dates and times -/

/-- A number of two digits. -/
def twoDigits : List Char → Option (Nat × List Char)
  | a :: b :: rest =>
    if a.isDigit && b.isDigit then some (Text.digitsValue [a, b], rest) else none
  | _ => none

/-- A number of two digits between two bounds. -/
def twoDigitsWithin (least most : Nat) (cs : List Char) : Option (Nat × List Char) := do
  let (n, rest) ← twoDigits cs
  if least ≤ n && n ≤ most then return (n, rest) else none

/-- The text behind a character, if it begins with it. -/
def behind? (c : Char) : List Char → Option (List Char)
  | d :: rest => if d = c then some rest else none
  | [] => none

/-- The number of days of a month. -/
def daysIn (year month : Nat) : Nat :=
  if month = 2 then if year % 4 = 0 && (year % 100 != 0 || year % 400 = 0) then 29 else 28
  else if [4, 6, 9, 11].contains month then 30
  else 31

/-- The text behind a month and a day, separated by a hyphen. -/
def skipMonthDay (year : Nat) (cs : List Char) : Option (List Char) := do
  let (month, rest) ← twoDigitsWithin 1 12 cs
  let (_, rest) ← twoDigitsWithin 1 (daysIn year month) (← behind? '-' rest)
  return rest

/-- The text behind a fraction of a second, if there is one. -/
def skipSecondFraction : List Char → Option (List Char)
  | '.' :: rest =>
    if (rest.headD ' ').isDigit then some (rest.dropWhile Char.isDigit) else none
  | cs => some cs

/-- The text behind a time of the day. -/
def skipTime (cs : List Char) : Option (List Char) := do
  let (_, rest) ← twoDigitsWithin 0 23 cs
  let (_, rest) ← twoDigitsWithin 0 59 (← behind? ':' rest)
  let (_, rest) ← twoDigitsWithin 0 60 (← behind? ':' rest)
  skipSecondFraction rest

/-- The text behind the distance from universal time, if there is one. -/
def skipOffset : List Char → Option (List Char)
  | c :: rest =>
    if c = 'Z' || c = 'z' then some rest
    else if c = '+' || c = '-' then do
      let (_, rest) ← twoDigitsWithin 0 23 rest
      let (_, rest) ← twoDigitsWithin 0 59 (← behind? ':' rest)
      return rest
    else some (c :: rest)
  | [] => some []

/-- Whether a text begins with two digits and a colon. -/
def beginsTime : List Char → Bool
  | a :: b :: ':' :: _ => a.isDigit && b.isDigit
  | _ => false

/-- Whether a text begins with four digits and a hyphen. -/
def beginsDate : List Char → Bool
  | a :: b :: c :: d :: '-' :: _ => [a, b, c, d].all Char.isDigit
  | _ => false

/-- The text behind a date, which a time may follow. -/
def skipDate (cs : List Char) : Option (List Char) := do
  let rest ← skipMonthDay (Text.digitsValue (cs.take 4)) (cs.drop 5)
  match rest with
  | c :: time =>
    if ['T', 't', ' '].contains c && beginsTime time then skipOffset (← skipTime time)
    else return rest
  | [] => return []

/-- A date or a time, if the text begins like one. -/
def readMoment (cs : List Char) : Option (Toml × List Char) := do
  let rest ← if beginsDate cs then skipDate cs else skipTime cs
  return (.moment (String.ofList (cs.take (cs.length - rest.length))), rest)

/-! ## Digits -/

/-- The digits that follow a digit.  An underscore has to stand between two digits. -/
def moreDigits (isDigit : Char → Bool) : List Char → Option (List Char × List Char)
  | '_' :: c :: rest =>
    if isDigit c then
      (moreDigits isDigit rest).map fun (digits, left) => (c :: digits, left)
    else none
  | ['_'] => none
  | c :: rest =>
    if isDigit c then
      (moreDigits isDigit rest).map fun (digits, left) => (c :: digits, left)
    else some ([], c :: rest)
  | [] => some ([], [])

/-- A run of digits, at least one. -/
def readDigits (isDigit : Char → Bool) : List Char → Option (List Char × List Char)
  | c :: rest =>
    if isDigit c then (moreDigits isDigit rest).map fun (digits, left) => (c :: digits, left)
    else none
  | [] => none

/-- The digits before a point: a zero stands alone. -/
def readWhole : List Char → Option (List Char × List Char)
  | '0' :: rest => some (['0'], rest)
  | cs => readDigits Char.isDigit cs

/-- The digits behind a point, if there is one. -/
def readFraction : List Char → Option (Option (List Char) × List Char)
  | '.' :: rest => (readDigits Char.isDigit rest).map fun (digits, left) => (some digits, left)
  | cs => some (none, cs)

/-- A sign, if there is one: whether it is a minus. -/
def readSign : List Char → Bool × List Char
  | '-' :: rest => (true, rest)
  | '+' :: rest => (false, rest)
  | cs => (false, cs)

/-- The exponent, if there is one. -/
def readExponent : List Char → Option (Option Int × List Char)
  | c :: rest =>
    if c = 'e' || c = 'E' then do
      let (negative, rest) := readSign rest
      let (digits, rest) ← readDigits Char.isDigit rest
      let n : Int := Text.digitsValue digits
      return (some (if negative then -n else n), rest)
    else some (none, c :: rest)
  | [] => some (none, [])

/-! ## Numbers -/

/-- An integer, which has to fit into 64 bits. -/
def integer (negative : Bool) (magnitude : Nat) : Option Toml :=
  let n : Int := if negative then -magnitude else magnitude
  if -(twoTo 63 : Int) ≤ n && n < twoTo 63 then some (.int n) else none

/-- A double.  A positive number that is too large is refused, a negative one is an infinity. -/
def double (negative : Bool) (whole fraction : List Char) (exponent : Int) : Option Toml :=
  match Binary64.ofDecimal negative (Text.digitsValue (whole ++ fraction))
      (exponent - fraction.length) with
  | some x => some (.float (some x))
  | none => if negative then some (.float none) else none

/-- The value of a digit of any base up to sixteen. -/
def digitValue (c : Char) : Nat := (Text.hexValue c).getD 0

/-- An integer in another base behind its mark. -/
def readBased (base : Nat) (cs : List Char) : Option (Toml × List Char) := do
  let isDigit (c : Char) : Bool := (Text.hexValue c).any (· < base)
  let (digits, rest) ← readDigits isDigit cs
  return (← integer false (digits.foldl (fun n c => n * base + digitValue c) 0), rest)

/-- A number in base ten behind its sign. -/
def readDecimal (negative : Bool) (cs : List Char) : Option (Toml × List Char) := do
  let (whole, rest) ← readWhole cs
  let (fraction, rest) ← readFraction rest
  let (exponent, rest) ← readExponent rest
  let value ←
    if fraction.isNone && exponent.isNone then integer negative (Text.digitsValue whole)
    else double negative whole (fraction.getD []) (exponent.getD 0)
  return (value, rest)

/-- A number. -/
def readNumber (cs : List Char) : Option (Toml × List Char) :=
  match cs with
  | '0' :: 'x' :: rest => readBased 16 rest
  | '0' :: 'o' :: rest => readBased 8 rest
  | '0' :: 'b' :: rest => readBased 2 rest
  | _ =>
    match readSign cs with
    | (_, 'i' :: 'n' :: 'f' :: rest) => some (.float none, rest)
    | (_, 'n' :: 'a' :: 'n' :: rest) => some (.float none, rest)
    | (negative, rest) => readDecimal negative rest

/-- A number, a date or a time. -/
def readNumeric (cs : List Char) : Option (Toml × List Char) :=
  if beginsDate cs || beginsTime cs then readMoment cs else readNumber cs

end SchemaCompiler.Toml

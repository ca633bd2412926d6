import SchemaCompiler.Number.Binary64
import SchemaCompiler.Text.Basic

/-!
# The shortest decimal that reads back

A double is written with the fewest digits from which it can be read back, and with the nearest such
digits.  The reals that round to a double form an interval, from halfway to the neighbour below to
halfway to the neighbour above, with its ends exactly when the significand is even.  For one, two, …
digits the two decimals next to the double are tried; the first number of digits with a hit wins.

* `readsBack` — whether a decimal lies in the interval.
* `shortest` — the digits and the power of ten.
* `Binary64.render` — positional from `1e-5` up to `1e16`, with a signed exponent otherwise.
-/

namespace SchemaCompiler.Binary64

/-- `digits · 10 ^ power`. -/
structure Decimal where
  digits : Nat
  power : Int
  deriving DecidableEq, Repr

/-- Compares `a · 10 ^ i` with `n · 2 ^ j`. -/
def compareScaled (a : Nat) (i : Int) (n : Nat) (j : Int) : Ordering :=
  compare (a * tenTo i.toNat * twoTo (-j).toNat) (n * twoTo j.toNat * tenTo (-i).toNat)

/-- Whether a decimal is among the reals that round to the double. -/
def readsBack (x : Binary64) (d : Decimal) : Bool :=
  let narrowBelow := x.significand == twoTo 52 && x.exponent > leastExponent
  let lo := if narrowBelow then 4 * x.significand - 1 else 4 * x.significand - 2
  let hi := 4 * x.significand + 2
  let closed := x.significand % 2 == 0
  let below := compareScaled d.digits d.power lo (x.exponent - 2)
  let above := compareScaled d.digits d.power hi (x.exponent - 2)
  (below == .gt || (closed && below == .eq)) && (above == .lt || (closed && above == .eq))

/-- The least `k ≥ start` with the double below `10 ^ k`, among the next `fuel` integers. -/
def scaleFrom (x : Binary64) : Nat → Int → Int
  | 0, k => k
  | fuel + 1, k =>
    if compareScaled 1 k x.significand x.exponent == .gt then k else scaleFrom x fuel (k + 1)

/-- Of the two decimals next to the double on the grid `10 ^ power` the one that reads back, the
nearer of two, and of two equally near ones the one with an even last digit. -/
def onGrid (x : Binary64) (power : Int) : Option Decimal :=
  let num := x.significand * twoTo x.exponent.toNat * tenTo (-power).toNat
  let den := twoTo (-x.exponent).toNat * tenTo power.toNat
  let low : Decimal := ⟨num / den, power⟩
  let high : Decimal := ⟨num / den + 1, power⟩
  match x.readsBack low, x.readsBack high with
  | true, true => some ⟨roundHalfEven num den, power⟩
  | true, false => some low
  | false, true => some high
  | false, false => none

/-- Divides trailing zeros of the digits out, at most `fuel` of them. -/
def stripZeros : Nat → Decimal → Decimal
  | 0, d => d
  | fuel + 1, d =>
    if d.digits % 10 == 0 && d.digits != 0 then stripZeros fuel ⟨d.digits / 10, d.power + 1⟩ else d

/-- The shortest decimal that reads back as the double. -/
def shortest (x : Binary64) : Decimal :=
  if x.isZero then ⟨0, 0⟩
  else
    let bits : Int := (Nat.log2 x.significand : Int) + x.exponent
    let k := scaleFrom x 16 (bits * 3 / 10 - 2)
    match (List.range 17).findSome? fun n => x.onGrid (k - (n + 1 : Nat)) with
    | some d => stripZeros 400 d
    | none => stripZeros 400 ((x.onGrid (k - 17)).getD ⟨x.significand, x.exponent⟩)

/-- The text of a double: its shortest digits, with a point among or after them from `1e-5` up to
`1e16`, and otherwise with an exponent, which always has a sign, after the first digit. -/
def render (x : Binary64) : String :=
  let sign := if x.negative then "-" else ""
  if x.isZero then sign ++ "0.0"
  else
    let d := x.shortest
    let digits := Nat.toDigits 10 d.digits
    let point : Int := digits.length + d.power
    let text : List Char :=
      if 0 ≤ d.power && point ≤ 16 then
        digits ++ List.replicate d.power.toNat '0' ++ ['.', '0']
      else if 0 < point && point ≤ 16 then
        digits.take point.toNat ++ '.' :: digits.drop point.toNat
      else if -5 < point && point ≤ 0 then
        '0' :: '.' :: List.replicate (-point).toNat '0' ++ digits
      else
        let fraction := if digits.length == 1 then [] else '.' :: digits.drop 1
        let e := point - 1
        digits.take 1 ++ fraction ++ 'e' :: (if e < 0 then '-' else '+') :: Nat.toDigits 10 e.natAbs
    sign ++ String.ofList text

end SchemaCompiler.Binary64

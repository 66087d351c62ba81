import FactoryGen.Number.Binary

/-! Decimals that stand for binary numbers.

`shortest` gives the decimal with the fewest digits that reads back as a number,
and of those the nearest one: for each count of digits it looks at the two
decimals of that many digits next to the number, and the first count with one
that rounds to the number wins. How a decimal is laid out (where the point goes,
when an exponent is written) is a `Layout`. -/
namespace FactoryGen.Number

/-- The digits of a coefficient and the power of ten that belongs to it. -/
structure Decimal where
  coefficient : Nat
  exponent : Int
deriving DecidableEq, Repr

namespace Decimal

/-- A number of quarter units as a comparison of products: whether
`coefficient · 10 ^ exponent` is at most `quarters · 2 ^ binary`. -/
def atMost (d : Decimal) (quarters : Nat) (binary : Int) : Bool :=
  let (up, down) := Binary.scale binary
  if 0 ≤ d.exponent then
    decide (d.coefficient * Nat.pow 10 d.exponent.toNat * down ≤ quarters * up)
  else decide (d.coefficient * down ≤ quarters * up * Nat.pow 10 (-d.exponent).toNat)

/-- Whether `quarters · 2 ^ binary` is at most `coefficient · 10 ^ exponent`. -/
def atLeast (d : Decimal) (quarters : Nat) (binary : Int) : Bool :=
  let (up, down) := Binary.scale binary
  if 0 ≤ d.exponent then
    decide (quarters * up ≤ d.coefficient * Nat.pow 10 d.exponent.toNat * down)
  else decide (quarters * up * Nat.pow 10 (-d.exponent).toNat ≤ d.coefficient * down)

/-- Whether a decimal rounds to the number `significand · 2 ^ exponent`. The reals
that do are the ones within half a unit of it, less below a power of two, where
the numbers lie closer; the ends belong to it if the significand is even. -/
def roundsTo (d : Decimal) (significand : Nat) (exponent : Int) : Bool :=
  let below := if significand = Nat.pow 2 52 ∧ Binary.leastExponent < exponent then 1 else 2
  let low := 4 * significand - below
  let high := 4 * significand + 2
  if significand % 2 = 0 then d.atLeast low (exponent - 2) && d.atMost high (exponent - 2)
  else !d.atMost low (exponent - 2) && !d.atLeast high (exponent - 2)

/-- The greatest decimal with a given exponent that is at most a quotient, and
what is left of the quotient, as a numerator over a denominator. -/
def floorAt (num den : Nat) (exponent : Int) : Nat × Nat × Nat :=
  let (n, d) :=
    if 0 ≤ exponent then (num, den * Nat.pow 10 exponent.toNat)
    else (num * Nat.pow 10 (-exponent).toNat, den)
  (n / d, n % d, d)

/-- The exponent of the first digit of a positive quotient, found from below. -/
def firstDigit (num den : Nat) : Nat → Int → Int
  | 0, e => e
  | fuel + 1, e => if (floorAt num den (e + 1)).1 = 0 then e else firstDigit num den fuel (e + 1)

/-- A decimal without zeros at its end. -/
def trim : Nat → Decimal → Decimal
  | 0, d => d
  | fuel + 1, d =>
    if d.coefficient ≠ 0 ∧ d.coefficient % 10 = 0 then
      trim fuel ⟨d.coefficient / 10, d.exponent + 1⟩
    else d

/-- The decimal with `digits` digits that rounds to a number, if there is one. -/
def candidate (significand : Nat) (exponent : Int) (first : Int) (digits : Nat) : Option Decimal :=
  let (num, den) := Binary.ratio significand exponent
  let place := first - (digits : Int) + 1
  let (low, rest, whole) := floorAt num den place
  let below : Decimal := ⟨low, place⟩
  let above : Decimal := ⟨low + 1, place⟩
  match below.roundsTo significand exponent, above.roundsTo significand exponent with
  | true, true =>
    if 2 * rest < whole then some below
    else if whole < 2 * rest then some above
    else some (if low % 2 = 0 then below else above)
  | true, false => some below
  | false, true => some above
  | false, false => none

/-- The decimal with the fewest digits that rounds to a positive number. -/
def shortest (significand : Nat) (exponent : Int) : Decimal :=
  let (num, den) := Binary.ratio significand exponent
  let first := firstDigit num den 700 (-330)
  match (List.range 17).findSome? fun n => candidate significand exponent first (n + 1) with
  | some d => trim 20 d
  | none => ⟨0, 0⟩

example : shortest 7205759403792794 (-56) = ⟨1, -1⟩ := by decide +kernel
example : shortest 1 (-1074) = ⟨5, -324⟩ := by decide +kernel

end Decimal

/-- How a binary number is written. -/
structure Layout where
  /-- Whether a number whose point stands so many places behind its first digit's
  left side is written without an exponent. -/
  positional : Int → Bool

namespace Layout

/-- The digits of a decimal around a point that stands `point` places from the
left; always with at least one digit on either side. -/
def spread (digits : List Char) (point : Int) : List Char :=
  if point ≤ 0 then '0' :: '.' :: List.replicate (-point).toNat '0' ++ digits
  else
    let n := point.toNat
    if digits.length ≤ n then digits ++ List.replicate (n - digits.length) '0' ++ ['.', '0']
    else digits.take n ++ '.' :: digits.drop n

/-- The first digit, the other digits behind a point, and the exponent. -/
def scientific (digits : List Char) (point : Int) : List Char :=
  let mantissa := match digits with
    | first :: next :: others => first :: '.' :: next :: others
    | digits => digits
  mantissa ++ 'e' :: (toString (point - 1)).toList

/-- The text of a number. -/
def text (layout : Layout) : Binary → String
  | .undefined => "NaN"
  | .infinite negative => if negative then "-inf" else "inf"
  | .finite negative significand exponent =>
    let sign := if negative then ['-'] else []
    if significand = 0 then String.ofList (sign ++ ['0', '.', '0'])
    else
      let d := Decimal.shortest significand exponent
      let digits := Nat.toDigits 10 d.coefficient
      let point := (digits.length : Int) + d.exponent
      String.ofList (sign ++
        if layout.positional point then spread digits point else scientific digits point)

/-- Numbers inside messages never have an exponent. -/
def inMessages : Layout := ⟨fun _ => true⟩

/-- Numbers in output have one below `1e-5` and from `1e16` on. -/
def inOutput : Layout := ⟨fun point => decide (-5 < point ∧ point ≤ 16)⟩

example : inMessages.text (Binary.ofNat 1000) = "1000.0" := by decide +kernel
example : inOutput.text (Binary.ofRatio true 1 4) = "-0.25" := by decide +kernel
example : inOutput.text (Binary.ofNat (10 ^ 16)) = "1e16" := by decide +kernel

end Layout
end FactoryGen.Number

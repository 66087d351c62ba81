/-! Binary floating point numbers with 53 significant bits.

A finite number is a sign, a significand and a power of two; significands have
exactly 53 bits unless the exponent is the least one, `-1074`. Everything is
computed on natural numbers: `ofRatio` rounds an exact quotient to the nearest
number, the even significand on a tie, and products and quotients are rounded
exact ones. -/
namespace FactoryGen.Number

/-- A binary floating point number. -/
inductive Binary where
  | finite (negative : Bool) (significand : Nat) (exponent : Int)
  | infinite (negative : Bool)
  | undefined
deriving DecidableEq, Repr

namespace Binary

def leastExponent : Int := -1074

def greatestExponent : Int := 971

/-- Two to some power, as a pair of a numerator and a denominator. -/
def scale (exponent : Int) : Nat × Nat :=
  if 0 ≤ exponent then (Nat.pow 2 exponent.toNat, 1) else (1, Nat.pow 2 (-exponent).toNat)

/-- The quotient of two numbers rounded to an integer, to the even one on a tie. -/
def roundDiv (num den : Nat) : Nat :=
  let q := num / den
  let r := num % den
  if 2 * r < den then q else if den < 2 * r then q + 1 else q + q % 2

/-- The exponent at which a positive quotient has 53 bits before the point, or the
least one. -/
def exponentOf (num den : Nat) : Int :=
  let guess : Int := (num.log2 : Int) - (den.log2 : Int) - 52
  let (up, down) := scale guess
  let exponent := if num * down < Nat.pow 2 52 * (den * up) then guess - 1 else guess
  max exponent leastExponent

/-- The number nearest to a quotient. The denominator is positive. -/
def ofRatio (negative : Bool) (num den : Nat) : Binary :=
  if num = 0 then .finite negative 0 leastExponent
  else
    let exponent := exponentOf num den
    let (up, down) := scale exponent
    let significand := roundDiv (num * down) (den * up)
    if significand = Nat.pow 2 53 then
      if exponent < greatestExponent then .finite negative (Nat.pow 2 52) (exponent + 1)
      else .infinite negative
    else if greatestExponent < exponent then .infinite negative
    else .finite negative significand exponent

/-- The number nearest to an integer. -/
def ofNat (n : Nat) : Binary := ofRatio false n 1

def neg : Binary → Binary
  | .finite negative significand exponent => .finite (!negative) significand exponent
  | .infinite negative => .infinite (!negative)
  | .undefined => .undefined

/-- The numerator and the denominator of the magnitude of a finite number. -/
def ratio (significand : Nat) (exponent : Int) : Nat × Nat :=
  let (up, down) := scale exponent
  (significand * up, down)

/-- The product, rounded. Only finite numbers are multiplied here. -/
def mul : Binary → Binary → Binary
  | .finite s m e, .finite t n f =>
    let (num, den) := ratio (m * n) (e + f)
    ofRatio (s != t) num den
  | _, _ => .undefined

/-- The quotient, rounded. Only finite numbers are divided here, and never by
zero. -/
def div : Binary → Binary → Binary
  | .finite s m e, .finite t n f =>
    if n = 0 then .undefined
    else
      let (num, den) := ratio m (e - f)
      ofRatio (s != t) num (den * n)
  | _, _ => .undefined

def powerOfTen (n : Nat) : Binary := ofNat (Nat.pow 10 n)

def isZero : Binary → Bool
  | .finite _ significand _ => significand == 0
  | _ => false

/-- A finite number whose significand has all 53 bits. -/
def isNormal : Binary → Bool
  | .finite _ significand _ => decide (Nat.pow 2 52 ≤ significand)
  | _ => false

/-- The number nearest to a decimal, whatever its size. Decimals beyond the range
are not worked out: `digits` digits before the exponent say enough. -/
def ofDecimal (negative : Bool) (coefficient : Nat) (exponent : Int) (digits : Nat) : Binary :=
  if coefficient = 0 then .finite negative 0 leastExponent
  else if exponent + digits < -400 then .finite negative 0 leastExponent
  else if 400 < exponent then .infinite negative
  else if 0 ≤ exponent then ofRatio negative (coefficient * Nat.pow 10 exponent.toNat) 1
  else ofRatio negative coefficient (Nat.pow 10 (-exponent).toNat)

example : ofRatio false 1 10 = .finite false 7205759403792794 (-56) := by decide +kernel
example : ofRatio true 3 2 = .finite true 6755399441055744 (-52) := by decide +kernel
example : ofNat (2 ^ 53 + 1) = ofNat (2 ^ 53) := by decide +kernel

end Binary
end FactoryGen.Number

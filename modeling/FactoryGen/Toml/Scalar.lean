import FactoryGen.Document.Basic
import FactoryGen.Toml.Moment

/-! Values without quotes and brackets: truth values, numbers, dates and times.

A number may have underscores between its digits. Integers may be written to base
two, eight and sixteen; no decimal integer starts with a zero that is not needed.
An integer that does not fit 64 bits, with or without sign, has no value; one that
does not even fit 128 bits is a mistake, and so is a number with a point that is
greater than every finite one. -/
namespace FactoryGen.Toml.Scalar

/-- The value of a digit to some base. -/
def digit? (base : Nat) (c : Char) : Option Nat :=
  let value :=
    if '0' ≤ c ∧ c ≤ '9' then c.toNat - 48
    else if 'a' ≤ c ∧ c ≤ 'f' then c.toNat - 87
    else if 'A' ≤ c ∧ c ≤ 'F' then c.toNat - 55
    else base
  if value < base then some value else none

/-- Digits with single underscores between them, behind a digit. -/
def readMore (base : Nat) : List Char → List Nat × List Char
  | '_' :: c :: rest =>
    match digit? base c with
    | some d =>
      let (digits, rest) := readMore base rest
      (d :: digits, rest)
    | none => ([], '_' :: c :: rest)
  | c :: rest =>
    match digit? base c with
    | some d =>
      let (digits, rest) := readMore base rest
      (d :: digits, rest)
    | none => ([], c :: rest)
  | [] => ([], [])

/-- One digit at least, and the rest. -/
def readDigits (base : Nat) : List Char → Option (List Nat × List Char)
  | c :: rest =>
    match digit? base c with
    | some d =>
      let (digits, rest) := readMore base rest
      some (d :: digits, rest)
    | none => none
  | [] => none

def natOfDigits (base : Nat) (digits : List Nat) : Nat := digits.foldl (fun n d => n * base + d) 0

def integer (negative : Bool) (n : Nat) : Document :=
  if negative then
    if n ≤ Nat.pow 2 63 then .number (some (.integer (-n)))
    else if n ≤ Nat.pow 2 127 then .number none
    else .broken
  else if n < Nat.pow 2 64 then .number (some (.integer n))
  else if n < Nat.pow 2 128 then .number none
  else .broken

/-- An integer to some base, which is the whole text. -/
def readBased (base : Nat) (input : List Char) : Option Document :=
  match readDigits base input with
  | some (digits, []) => some (integer false (natOfDigits base digits))
  | _ => none

/-- A text without a sign in front, and whether the sign was a minus. -/
def readSign : List Char → Bool × List Char
  | '-' :: rest => (true, rest)
  | '+' :: rest => (false, rest)
  | rest => (false, rest)

/-- The digits behind a point, if there is one. -/
def readFraction : List Char → Option (Option (List Nat) × List Char)
  | '.' :: rest => (readDigits 10 rest).map fun (digits, rest) => (some digits, rest)
  | rest => some (none, rest)

/-- The sign and the digits of an exponent, if there is one. -/
def readPower : List Char → Option (Option (Bool × List Nat) × List Char)
  | c :: rest =>
    if c = 'e' ∨ c = 'E' then
      let (negative, rest) := readSign rest
      (readDigits 10 rest).map fun (digits, rest) => (some (negative, digits), rest)
    else some (none, c :: rest)
  | [] => some (none, [])

/-- The number with some digits before and behind the point and an exponent. -/
def float (negative : Bool) (whole fraction : List Nat) (power : Option (Bool × List Nat)) :
    Document :=
  let digits := whole ++ fraction
  let shift : Int := match power with
    | some (true, digits) => -(natOfDigits 10 digits : Int)
    | some (false, digits) => natOfDigits 10 digits
    | none => 0
  match Number.Binary.ofDecimal negative (natOfDigits 10 digits) (shift - fraction.length)
      digits.length with
  | .infinite _ => .broken
  | value => .number (some (.binary value))

/-- A decimal number, which is the whole text. -/
def readDecimal (input : List Char) : Option Document := do
  let (negative, input) := readSign input
  let (whole, input) ← readDigits 10 input
  if whole.head? = some 0 ∧ 1 < whole.length then none
  else
    let (fraction, input) ← readFraction input
    let (power, input) ← readPower input
    if !input.isEmpty then none
    else if fraction.isNone && power.isNone then some (integer negative (natOfDigits 10 whole))
    else some (float negative whole (fraction.getD []) power)

/-- A number that is none of the finite ones. -/
def readSpecial (input : List Char) : Option Document :=
  let (negative, input) := readSign input
  if input = ['i', 'n', 'f'] then some (.number (some (.binary (.infinite negative))))
  else if input = ['n', 'a', 'n'] then some (.number (some (.binary .undefined)))
  else none

/-- A value without quotes and brackets, which is the whole text. -/
def read (input : List Char) : Option Document :=
  match input with
  | ['t', 'r', 'u', 'e'] => some (.bool true)
  | ['f', 'a', 'l', 's', 'e'] => some (.bool false)
  | '0' :: 'x' :: rest => readBased 16 rest
  | '0' :: 'o' :: rest => readBased 8 rest
  | '0' :: 'b' :: rest => readBased 2 rest
  | input =>
    if Moment.isMoment input then some .moment else (readSpecial input).or (readDecimal input)

/-- Whether a character ends a value without quotes and brackets. -/
def isEnd (c : Char) : Bool :=
  c == ' ' || c == '\t' || c == '\r' || c == '\n' || c == ',' || c == ']' || c == '\x7d' || c == '#'

/-- The first value of a text and the rest. A blank between a date and a time belongs
to them. -/
def readFirst (input : List Char) : Option (Document × List Char) :=
  let first := input.takeWhile (!isEnd ·)
  let rest := input.dropWhile (!isEnd ·)
  match rest with
  | ' ' :: c :: more =>
    if Moment.isDateLike first && c.isDigit then
      let second := (c :: more).takeWhile (!isEnd ·)
      (read (first ++ ' ' :: second)).map (·, (c :: more).dropWhile (!isEnd ·))
    else (read first).map (·, rest)
  | rest => (read first).map (·, rest)

end FactoryGen.Toml.Scalar

import FactoryGen.Document.Basic

/-! Reading JSON text into documents.

The grammar is the strict one: no comments, no trailing commas, no control
characters inside quotes, no byte order mark. The leaf readers take a text and
give what they read and the rest; the readers of values give `none` for the rest
once the text has broken the grammar. -/
namespace FactoryGen.Json.Reader

/-- The white space of the grammar. -/
def isSpace (c : Char) : Bool := c == ' ' || c == '\t' || c == '\n' || c == '\r'

/-- A text without the white space in front. -/
def skip (input : List Char) : List Char := input.dropWhile isSpace

def hexValue? (c : Char) : Option Nat :=
  if '0' ≤ c ∧ c ≤ '9' then some (c.toNat - 48)
  else if 'a' ≤ c ∧ c ≤ 'f' then some (c.toNat - 87)
  else if 'A' ≤ c ∧ c ≤ 'F' then some (c.toNat - 55)
  else none

def hexUnit? (a b c d : Char) : Option Nat := do
  let a ← hexValue? a
  let b ← hexValue? b
  let c ← hexValue? c
  let d ← hexValue? d
  return ((a * 16 + b) * 16 + c) * 16 + d

/-- What a letter behind a backslash stands for. -/
def shortEscape? (c : Char) : Option Char :=
  if c = '"' ∨ c = '\\' ∨ c = '/' then some c
  else if c = 'b' then some '\x08'
  else if c = 'f' then some '\x0c'
  else if c = 'n' then some '\n'
  else if c = 'r' then some '\r'
  else if c = 't' then some '\t'
  else none

/-- The code points between quotes, the opening quote read already. Escaped halves
of surrogate pairs are code points here. -/
def readUnits : List Char → Option (List Nat × List Char)
  | '"' :: rest => some ([], rest)
  | '\\' :: 'u' :: a :: b :: c :: d :: rest =>
    match hexUnit? a b c d, readUnits rest with
    | some unit, some (units, rest) => some (unit :: units, rest)
    | _, _ => none
  | '\\' :: c :: rest =>
    match shortEscape? c, readUnits rest with
    | some c, some (units, rest) => some (c.toNat :: units, rest)
    | _, _ => none
  | c :: rest =>
    if c = '\\' ∨ c.toNat < 32 then none
    else (readUnits rest).map fun (units, rest) => (c.toNat :: units, rest)
  | [] => none

def isHighSurrogate (unit : Nat) : Bool := decide (0xd800 ≤ unit ∧ unit < 0xdc00)

def isLowSurrogate (unit : Nat) : Bool := decide (0xdc00 ≤ unit ∧ unit < 0xe000)

/-- The characters of a list of code points: the halves of a pair that stand
together make one character, halves that do not make none. -/
def charactersOf : List Nat → Option (List Char)
  | [] => some []
  | high :: low :: rest =>
    if isHighSurrogate high && isLowSurrogate low then
      (charactersOf rest).map
        (Char.ofNat (0x10000 + (high - 0xd800) * 0x400 + (low - 0xdc00)) :: ·)
    else if isHighSurrogate high || isLowSurrogate high then none
    else (charactersOf (low :: rest)).map (Char.ofNat high :: ·)
  | [unit] =>
    if isHighSurrogate unit || isLowSurrogate unit then none else some [Char.ofNat unit]

/-- A text between quotes, the opening quote read already: nothing if the quotes are
never closed or hold what they must not, and otherwise the text, if it has only
characters, and the rest. -/
def readText (input : List Char) : Option (Option String × List Char) :=
  (readUnits input).map fun (units, rest) => ((charactersOf units).map String.ofList, rest)

def digitValue? (c : Char) : Option Nat :=
  if '0' ≤ c ∧ c ≤ '9' then some (c.toNat - 48) else none

def readDigits : List Char → List Nat × List Char
  | [] => ([], [])
  | c :: rest =>
    match digitValue? c with
    | some d => let (digits, rest) := readDigits rest; (d :: digits, rest)
    | none => ([], c :: rest)

/-- A number as it is written. -/
structure Literal where
  negative : Bool
  /-- The digits before the point. -/
  whole : List Nat
  /-- The digits after the point, if there is one. -/
  fraction : Option (List Nat)
  /-- The sign and the digits of the exponent, if there is one. -/
  power : Option (Bool × List Nat)
deriving DecidableEq, Repr

/-- The digits before the point: no zero in front of others. -/
def readWhole (input : List Char) : Option (List Nat × List Char) :=
  match readDigits input with
  | ([], _) => none
  | (0 :: _ :: _, _) => none
  | read => some read

/-- The point and the digits after it, or neither. -/
def readFraction : List Char → Option (Option (List Nat) × List Char)
  | '.' :: rest =>
    match readDigits rest with
    | ([], _) => none
    | (digits, rest) => some (some digits, rest)
  | rest => some (none, rest)

/-- The exponent, or none. -/
def readPower : List Char → Option (Option (Bool × List Nat) × List Char)
  | c :: rest =>
    if c = 'e' ∨ c = 'E' then
      let (negative, rest) := match rest with
        | '-' :: rest => (true, rest)
        | '+' :: rest => (false, rest)
        | rest => (false, rest)
      match readDigits rest with
      | ([], _) => none
      | (digits, rest) => some (some (negative, digits), rest)
    else some (none, c :: rest)
  | [] => some (none, [])

/-- A number, from its sign to its exponent. -/
def readLiteral (input : List Char) : Option (Literal × List Char) := do
  let (negative, input) := match input with
    | '-' :: rest => (true, rest)
    | rest => (false, rest)
  let (whole, input) ← readWhole input
  let (fraction, input) ← readFraction input
  let (power, input) ← readPower input
  return (⟨negative, whole, fraction, power⟩, input)

def natOfDigits (digits : List Nat) : Nat := digits.foldl (fun n d => n * 10 + d) 0

/-- The greatest number of 64 bits. -/
def wordLimit : Nat := Nat.pow 2 64 - 1

/-- Digits taken into a number of 64 bits as long as they fit: the number, how many
were taken, and how many were left over. -/
def takeDigits : Nat → List Nat → Nat × Nat × Nat
  | n, [] => (n, 0, 0)
  | n, d :: rest =>
    if n * 10 + d ≤ wordLimit then
      let (n, taken, left) := takeDigits (n * 10 + d) rest
      (n, taken + 1, left)
    else (n, 0, rest.length + 1)

/-- A number of 64 bits scaled down by ten to some power, beyond the range of powers
in steps. -/
def scaleDown : Nat → Number.Binary → Nat → Number.Binary
  | 0, x, _ => x
  | fuel + 1, x, power =>
    if power ≤ 308 then x.div (.powerOfTen power)
    else if x.isZero then x
    else scaleDown fuel (x.div (.powerOfTen 308)) (power - 308)

/-- A number of 64 bits scaled by ten to some power, if the result is finite. -/
def scaleBy (significand : Nat) (power : Int) : Option Number.Binary :=
  let x := Number.Binary.ofNat significand
  if power < 0 then some (scaleDown 8 x (-power).toNat)
  else if 308 < power then if x.isZero then some x else none
  else
    match x.mul (.powerOfTen power.toNat) with
    | .infinite _ => none
    | product => some product

/-- The number that a literal stands for. Without point and exponent it is an integer
if it fits 64 bits; otherwise as many digits as fit are read as an integer, which is
then scaled by a power of ten. A result that is too great is none. -/
def Literal.value? (literal : Literal) : Option Numeral :=
  let n := natOfDigits literal.whole
  let integral := literal.fraction.isNone && literal.power.isNone
  if integral && !literal.negative && decide (n ≤ wordLimit) then some (.integer n)
  else if integral && literal.negative && decide (0 < n ∧ n ≤ Nat.pow 2 63) then some (.integer (-n))
  else
    let (front, _, left) := takeDigits 0 literal.whole
    let (significand, taken, _) := takeDigits front (literal.fraction.getD [])
    let point : Int := (left : Int) - taken
    let (down, power) := match literal.power with
      | some (down, digits) => (down, natOfDigits digits)
      | none => (false, 0)
    let scaled :=
      if Nat.pow 2 31 ≤ power then
        if significand = 0 ∨ down then some (Number.Binary.ofNat 0) else none
      else scaleBy significand (if down then point - power else point + power)
    scaled.map fun x => .binary (if literal.negative then x.neg else x)

/-- A word in front of a text, and the rest. -/
def readWord : List Char → List Char → Option (List Char)
  | [], input => some input
  | c :: word, d :: rest => if c = d then readWord word rest else none
  | _ :: _, [] => none

/-- A leaf, if its word is there. -/
def readConstant (word input : List Char) (leaf : Document) : Document × Option (List Char) :=
  match readWord word input with
  | some rest => (leaf, some rest)
  | none => (.broken, none)

def readNumber (input : List Char) : Document × Option (List Char) :=
  match readLiteral input with
  | some (literal, rest) => (.number literal.value?, some rest)
  | none => (.broken, none)

mutual

/-- A value, after white space. -/
def readValue : Nat → List Char → Document × Option (List Char)
  | 0, _ => (.broken, none)
  | fuel + 1, input =>
    match skip input with
    | '"' :: rest =>
      match readText rest with
      | some (value, rest) => (.text value, some rest)
      | none => (.broken, none)
    | '[' :: rest =>
      match skip rest with
      | ']' :: rest => (.list [], some rest)
      | rest => let (items, rest) := readItems fuel rest; (.list items, rest)
    | '\x7b' :: rest =>
      match skip rest with
      | '\x7d' :: rest => (.table [], some rest)
      | rest => let (entries, rest) := readEntries fuel rest; (.table entries, rest)
    | 'n' :: rest => readConstant ['u', 'l', 'l'] rest .null
    | 't' :: rest => readConstant ['r', 'u', 'e'] rest (.bool true)
    | 'f' :: rest => readConstant ['a', 'l', 's', 'e'] rest (.bool false)
    | rest => readNumber rest

/-- Items up to the closing bracket, at least one. -/
def readItems : Nat → List Char → List Document × Option (List Char)
  | 0, _ => ([.broken], none)
  | fuel + 1, input =>
    match readValue fuel input with
    | (item, none) => ([item], none)
    | (item, some rest) =>
      match skip rest with
      | ']' :: rest => ([item], some rest)
      | ',' :: rest => let (items, rest) := readItems fuel rest; (item :: items, rest)
      | _ => ([item, .broken], none)

/-- Entries up to the closing brace, at least one. -/
def readEntries : Nat → List Char → List (Option String × Document) × Option (List Char)
  | 0, _ => ([(none, .broken)], none)
  | fuel + 1, input =>
    match skip input with
    | '"' :: rest =>
      match readText rest with
      | none => ([(none, .broken)], none)
      | some (key, rest) =>
        match skip rest with
        | ':' :: rest =>
          match readValue fuel rest with
          | (value, none) => ([(key, value)], none)
          | (value, some rest) =>
            match skip rest with
            | '\x7d' :: rest => ([(key, value)], some rest)
            | ',' :: rest =>
              let (entries, rest) := readEntries fuel rest
              ((key, value) :: entries, rest)
            | _ => ([(key, value), (none, .broken)], none)
        | _ => ([(key, .broken)], none)
    | _ => ([(none, .broken)], none)

end

end FactoryGen.Json.Reader

namespace FactoryGen.Json

/-- What a text holds, and whether nothing but white space comes after it. -/
def read (input : List Char) : Document × Bool :=
  match Reader.readValue (2 * input.length + 2) input with
  | (document, some rest) => (document, (Reader.skip rest).isEmpty)
  | (document, none) => (document, false)

end FactoryGen.Json

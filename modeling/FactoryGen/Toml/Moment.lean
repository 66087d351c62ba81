/-! Dates and times as TOML writes them.

All that is asked of them here is that they exist: months have their days, hours
end at 23, and a minute may have a leap second. The functions take a text and give
what is left of it. -/
namespace FactoryGen.Toml.Moment

/-- The number that so many digits in front of a text stand for, and the rest. -/
def readDigits : Nat → Nat → List Char → Option (Nat × List Char)
  | 0, n, input => some (n, input)
  | count + 1, n, c :: rest =>
    if c.isDigit then readDigits count (n * 10 + (c.toNat - 48)) rest else none
  | _ + 1, _, [] => none

/-- A number of so many digits that is neither too small nor too great. -/
def readNumber (count least greatest : Nat) (input : List Char) : Option (Nat × List Char) :=
  match readDigits count 0 input with
  | some (n, rest) => if least ≤ n ∧ n ≤ greatest then some (n, rest) else none
  | none => none

/-- A text without the character that has to be in front. -/
def readMark (mark : Char) : List Char → Option (List Char)
  | c :: rest => if c = mark then some rest else none
  | [] => none

def isLeapYear (year : Nat) : Bool :=
  year % 4 == 0 && (year % 100 != 0 || year % 400 == 0)

def daysIn (year month : Nat) : Nat :=
  if month = 2 then if isLeapYear year then 29 else 28
  else if month = 4 ∨ month = 6 ∨ month = 9 ∨ month = 11 then 30
  else 31

def readDate (input : List Char) : Option (List Char) := do
  let (year, rest) ← readDigits 4 0 input
  let rest ← readMark '-' rest
  let (month, rest) ← readNumber 2 1 12 rest
  let rest ← readMark '-' rest
  let (_, rest) ← readNumber 2 1 (daysIn year month) rest
  return rest

/-- Seconds with a fraction, if they are there. -/
def readSeconds : List Char → Option (List Char)
  | ':' :: rest => do
    let (_, rest) ← readNumber 2 0 60 rest
    match rest with
    | '.' :: c :: rest => if c.isDigit then some (rest.dropWhile Char.isDigit) else none
    | rest => some rest
  | rest => some rest

def readTime (input : List Char) : Option (List Char) := do
  let (_, rest) ← readNumber 2 0 23 input
  let rest ← readMark ':' rest
  let (_, rest) ← readNumber 2 0 59 rest
  readSeconds rest

/-- A distance from universal time, if it is there. -/
def readOffset : List Char → Option (List Char)
  | [] => some []
  | c :: rest =>
    if c = 'Z' ∨ c = 'z' then some rest
    else if c = '+' ∨ c = '-' then do
      let (hours, rest) ← readNumber 2 0 24 rest
      let rest ← readMark ':' rest
      let (minutes, rest) ← readNumber 2 0 59 rest
      if hours * 60 + minutes ≤ 24 * 60 then some rest else none
    else none

/-- What may follow a date: a time of day, and then an offset. -/
def readAfterDate : List Char → Option (List Char)
  | [] => some []
  | c :: rest => if c = 'T' ∨ c = 't' ∨ c = ' ' then (readTime rest).bind readOffset else none

/-- Whether a text looks like a date, to which a time may belong. -/
def isDateLike (input : List Char) : Bool :=
  match readDigits 4 0 input with
  | some (_, '-' :: _) => true
  | _ => false

/-- Whether a text is a date, a time of day, or both. -/
def isMoment (input : List Char) : Bool :=
  ((readDate input).bind readAfterDate).or (readTime input) == some []

example : isMoment "1979-05-27".toList ∧ isMoment "07:32".toList ∧
    isMoment "1979-05-27T07:32:00.5Z".toList ∧ isMoment "2000-02-29 23:59:60-07:00".toList := by
  decide +kernel
example : ¬ isMoment "1979-02-29".toList ∧ ¬ isMoment "25:00:00".toList ∧
    ¬ isMoment "07:32Z".toList ∧ ¬ isMoment "1979-13-01".toList := by decide +kernel

end FactoryGen.Toml.Moment

import FactoryGen.Template.Basic

/-! Reading references.

A reference is a list of names with dots or slashes in between. It may start with
`@root`, with `@` for the marks of a loop, and with steps outwards, which are two
dots each. A name between square brackets may hold any character, and the name
`this` stays where it is. -/
namespace FactoryGen.Template.Reference

def isNameChar (c : Char) : Bool :=
  ('a' ≤ c && c ≤ 'z') || ('A' ≤ c && c ≤ 'Z') || ('0' ≤ c && c ≤ '9') ||
    c == '_' || c == '-' || c == '$' || decide (128 ≤ c.toNat)

def isSeparator (c : Char) : Bool := c == '.' || c == '/'

/-- The first name of a text and the rest. -/
def readName : List Char → Option (List Char × List Char)
  | '[' :: rest =>
    match rest.dropWhile (· != ']') with
    | _ :: after => some (rest.takeWhile (· != ']'), after)
    | [] => none
  | input =>
    match input.takeWhile isNameChar with
    | [] => none
    | name => some (name, input.dropWhile isNameChar)

/-- The names that a text consists of. Each takes a character at least. -/
def readNames : Nat → List Char → Option (List String)
  | 0, _ => none
  | fuel + 1, input =>
    match readName input with
    | none => none
    | some (name, []) => some [String.ofList name]
    | some (name, c :: rest) =>
      if isSeparator c then (readNames fuel rest).map (String.ofList name :: ·) else none

/-- The number of steps outwards in front of a text, and the rest. -/
def readSteps : List Char → Nat × List Char
  | '.' :: '.' :: c :: rest =>
    if isSeparator c then
      let (up, rest) := readSteps rest
      (up + 1, rest)
    else (0, '.' :: '.' :: c :: rest)
  | input => (0, input)

/-- Where a text starts from, and the names after that. -/
def readOrigin : List Char → Origin × List Char
  | '@' :: 'r' :: 'o' :: 'o' :: 't' :: '.' :: rest => (.root, rest)
  | '@' :: 'r' :: 'o' :: 'o' :: 't' :: '/' :: rest => (.root, rest)
  | '@' :: rest =>
    let (up, rest) := readSteps rest
    (.loop up, rest)
  | '.' :: '/' :: rest => (.view 0, rest)
  | input =>
    let (up, rest) := readSteps input
    (.view up, rest)

def read (input : List Char) : Option Reference := do
  let (origin, rest) := readOrigin input
  let names ← readNames (rest.length + 1) rest
  return ⟨String.ofList input, origin, names.filter (· != "this")⟩

example : read "../arr.[1]".toList = some ⟨"../arr.[1]", .view 1, ["arr", "1"]⟩ := by
  decide +kernel
example : read "@root.this.x".toList = some ⟨"@root.this.x", .root, ["x"]⟩ := by decide +kernel
example : read "@last".toList = some ⟨"@last", .loop 0, ["last"]⟩ := by decide +kernel
example : read "a..b".toList = none ∧ read "".toList = none ∧ read "..".toList = none := by
  decide +kernel

end FactoryGen.Template.Reference

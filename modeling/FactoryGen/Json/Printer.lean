import FactoryGen.Json.Basic

/-! JSON as text.

`compact` writes a value on one line, `indented` gives every item and member a
line of its own, two spaces deeper than what holds it. Members are written in the
order the value has them. -/
namespace FactoryGen.Json

/-- A hexadecimal digit, in lower case. -/
def hexDigit (n : Nat) : Char :=
  if n < 10 then Char.ofNat (48 + n) else Char.ofNat (87 + n)

/-- How a character is written inside quotes: quotes and backslashes behind a
backslash, control characters by name where they have a short one and by code
point otherwise. -/
def escapeChar (c : Char) : List Char :=
  if c = '"' then ['\\', '"']
  else if c = '\\' then ['\\', '\\']
  else if c = '\n' then ['\\', 'n']
  else if c = '\r' then ['\\', 'r']
  else if c = '\t' then ['\\', 't']
  else if c = '\x08' then ['\\', 'b']
  else if c = '\x0c' then ['\\', 'f']
  else if c.toNat < 32 then
    ['\\', 'u', '0', '0', hexDigit (c.toNat / 16), hexDigit (c.toNat % 16)]
  else [c]

def quote (value : String) : List Char := '"' :: (value.toList.flatMap escapeChar ++ ['"'])

mutual

/-- A value on one line. -/
def compactChars : Json → List Char
  | .null => ['n', 'u', 'l', 'l']
  | .bool true => ['t', 'r', 'u', 'e']
  | .bool false => ['f', 'a', 'l', 's', 'e']
  | .number value => value.text.toList
  | .text value => quote value
  | .list [] => ['[', ']']
  | .list (item :: rest) => '[' :: (compactChars item ++ compactItems rest)
  | .object [] => ['\x7b', '\x7d']
  | .object ((key, value) :: rest) =>
    '\x7b' :: (quote key ++ ':' :: (compactChars value ++ compactMembers rest))

/-- The items after the first, and the closing bracket. -/
def compactItems : List Json → List Char
  | [] => [']']
  | item :: rest => ',' :: (compactChars item ++ compactItems rest)

/-- The members after the first, and the closing brace. -/
def compactMembers : List (String × Json) → List Char
  | [] => ['\x7d']
  | (key, value) :: rest =>
    ',' :: (quote key ++ ':' :: (compactChars value ++ compactMembers rest))

end

/-- A value on one line. -/
def compact (value : Json) : String := String.ofList value.compactChars

/-- The start of a line at some depth. -/
def newline (depth : Nat) : List Char := '\n' :: List.replicate (2 * depth) ' '

mutual

/-- A value over several lines, the first one started by whoever asks. -/
def indentedChars (depth : Nat) : Json → List Char
  | .list [] => ['[', ']']
  | .list (item :: rest) =>
    '[' :: (newline (depth + 1) ++ indentedChars (depth + 1) item ++ indentedItems depth rest)
  | .object [] => ['\x7b', '\x7d']
  | .object ((key, value) :: rest) =>
    '\x7b' :: (newline (depth + 1) ++ quote key ++ ':' :: ' ' ::
      (indentedChars (depth + 1) value ++ indentedMembers depth rest))
  | value => compactChars value

def indentedItems (depth : Nat) : List Json → List Char
  | [] => newline depth ++ [']']
  | item :: rest =>
    ',' :: (newline (depth + 1) ++ indentedChars (depth + 1) item ++ indentedItems depth rest)

def indentedMembers (depth : Nat) : List (String × Json) → List Char
  | [] => newline depth ++ ['\x7d']
  | (key, value) :: rest =>
    ',' :: (newline (depth + 1) ++ quote key ++ ':' :: ' ' ::
      (indentedChars (depth + 1) value ++ indentedMembers depth rest))

end

def indented (value : Json) : String := String.ofList (value.indentedChars 0)

example : compact (.object [("a", .list [.null, .bool true]), ("b", .text "\n\"")]) =
    "\x7b\"a\":[null,true],\"b\":\"\\n\\\"\"\x7d" := by decide +kernel

end FactoryGen.Json

import FactoryGen.Toml.Scalar

/-! Texts between quotes, comments, and the blanks around them.

Between double quotes a backslash starts an escape; between single quotes nothing
does. Three quotes open a text of several lines, whose first line break does not
count if it comes at once, and which may have up to two quotes right before the
closing ones. Control characters are nowhere allowed. -/
namespace FactoryGen.Toml.Text

/-- The characters that may stand in quotes and comments, line breaks aside. -/
def isPlain (c : Char) : Bool := c == '\t' || (decide (32 ≤ c.toNat) && c.toNat != 127)

/-- The character with a code, if it has one. -/
def character? (code : Nat) : Option Char :=
  if code.isValidChar then some (Char.ofNat code) else none

/-- The character that some hexadecimal digits stand for. -/
def coded? (digits : List Char) : Option Char := do
  let digits ← digits.mapM (Scalar.digit? 16)
  character? (Scalar.natOfDigits 16 digits)

/-- What a letter behind a backslash stands for. -/
def shortEscape? (c : Char) : Option Char :=
  if c = '"' ∨ c = '\\' then some c
  else if c = 'b' then some '\x08'
  else if c = 't' then some '\t'
  else if c = 'n' then some '\n'
  else if c = 'f' then some '\x0c'
  else if c = 'r' then some '\r'
  else if c = 'e' then some '\x1b'
  else none

/-- The character that an escape stands for, its backslash read already, and the
rest. -/
def readEscape : List Char → Option (Char × List Char)
  | [] => none
  | c :: rest =>
    let width := if c = 'x' then 2 else if c = 'u' then 4 else if c = 'U' then 8 else 0
    if width = 0 then (shortEscape? c).map (·, rest)
    else if rest.length < width then none
    else (coded? (rest.take width)).map (·, rest.drop width)

/-- A text in front of a text. -/
def prepend (front : List Char) (read : Option (List Char × List Char)) :
    Option (List Char × List Char) :=
  read.map fun (text, rest) => (front ++ text, rest)

/-- A text on one line, its opening double quote read already. -/
def readBasic : Nat → List Char → Option (List Char × List Char)
  | 0, _ => none
  | _ + 1, '"' :: rest => some ([], rest)
  | fuel + 1, '\\' :: rest =>
    match readEscape rest with
    | some (c, rest) => prepend [c] (readBasic fuel rest)
    | none => none
  | fuel + 1, c :: rest => if isPlain c then prepend [c] (readBasic fuel rest) else none
  | _ + 1, [] => none

/-- A text on one line, its opening single quote read already. -/
def readLiteral : List Char → Option (List Char × List Char)
  | '\'' :: rest => some ([], rest)
  | c :: rest => if isPlain c then prepend [c] (readLiteral rest) else none
  | [] => none

def isSpace (c : Char) : Bool := c == ' ' || c == '\t'

/-- A text without the line break in front, if there is one. -/
def dropBreak? : List Char → Option (List Char)
  | '\n' :: rest => some rest
  | '\r' :: '\n' :: rest => some rest
  | _ => none

/-- A text without blanks and line breaks in front. -/
def dropBlank : List Char → List Char
  | '\r' :: '\n' :: rest => dropBlank rest
  | c :: rest => if isSpace c ∨ c = '\n' then dropBlank rest else c :: rest
  | [] => []

/-- The quotes in front of a text that close it, three of them and up to two that
belong to it: those two, and the rest. -/
def closing? (quote : Char) (input : List Char) : Option (List Char × List Char) :=
  let quotes := (input.takeWhile (· == quote)).length
  if quotes < 3 then none
  else
    let kept := Nat.min (quotes - 3) 2
    some (List.replicate kept quote, input.drop (kept + 3))

/-- The characters of a text of several lines, its opening quotes read already. -/
def readLines (quote : Char) (escapes : Bool) : Nat → List Char → Option (List Char × List Char)
  | 0, _ => none
  | _ + 1, [] => none
  | fuel + 1, c :: rest =>
    match closing? quote (c :: rest) with
    | some closed => some closed
    | none =>
      if escapes ∧ c = '\\' then
        match dropBreak? (rest.dropWhile isSpace) with
        | some behind => readLines quote escapes fuel (dropBlank behind)
        | none =>
          match readEscape rest with
          | some (c, rest) => prepend [c] (readLines quote escapes fuel rest)
          | none => none
      else
        match dropBreak? (c :: rest) with
        | some behind =>
          prepend (if c = '\n' then ['\n'] else ['\r', '\n']) (readLines quote escapes fuel behind)
        | none =>
          if isPlain c then prepend [c] (readLines quote escapes fuel rest) else none

/-- A text of several lines, its opening quotes read already. -/
def readBlock (quote : Char) (escapes : Bool) (input : List Char) :
    Option (List Char × List Char) :=
  let input := (dropBreak? input).getD input
  readLines quote escapes (input.length + 1) input

/-- A text on one line together with its quotes, and the rest. -/
def readQuoted? : List Char → Option (List Char × List Char)
  | '"' :: rest => readBasic (rest.length + 1) rest
  | '\'' :: rest => readLiteral rest
  | _ => none

/-- A text together with its quotes, and the rest. -/
def readAny? : List Char → Option (List Char × List Char)
  | '"' :: '"' :: '"' :: rest => readBlock '"' true rest
  | '\'' :: '\'' :: '\'' :: rest => readBlock '\'' false rest
  | input => readQuoted? input

/-- A text without the rest of its line, which holds nothing but a comment. -/
def readComment : List Char → Option (List Char)
  | [] => some []
  | '\n' :: rest => some rest
  | '\r' :: '\n' :: rest => some rest
  | c :: rest => if isPlain c then readComment rest else none

/-- A text without the rest of its line, which holds nothing but blanks and a
comment. -/
def readLineEnd (input : List Char) : Option (List Char) :=
  match input.dropWhile isSpace with
  | [] => some []
  | '#' :: rest => readComment rest
  | rest => dropBreak? rest

/-- A text without the blanks, line breaks and comments in front. -/
def readGap : Nat → List Char → Option (List Char)
  | 0, _ => none
  | fuel + 1, input =>
    match dropBlank input with
    | '#' :: rest => (readComment rest).bind (readGap fuel)
    | rest => some rest

/-- What keys without quotes consist of. -/
def isKeyChar (c : Char) : Bool :=
  ('a' ≤ c && c ≤ 'z') || ('A' ≤ c && c ≤ 'Z') || ('0' ≤ c && c ≤ '9') || c == '_' || c == '-'

def readKey (input : List Char) : Option (String × List Char) :=
  match input with
  | '"' :: _ | '\'' :: _ => (readQuoted? input).map fun (key, rest) => (String.ofList key, rest)
  | input =>
    match input.takeWhile isKeyChar with
    | [] => none
    | key => some (String.ofList key, input.dropWhile isKeyChar)

/-- Keys with dots between them, and the rest without blanks in front. -/
def readKeys : Nat → List Char → Option (List String × List Char)
  | 0, _ => none
  | fuel + 1, input =>
    match readKey (input.dropWhile isSpace) with
    | none => none
    | some (key, rest) =>
      match rest.dropWhile isSpace with
      | '.' :: rest => (readKeys fuel rest).map fun (keys, rest) => (key :: keys, rest)
      | rest => some ([key], rest)

end FactoryGen.Toml.Text

import FactoryGen.Toml.Table
import FactoryGen.Toml.Text

/-! Reading TOML text into documents.

`readValue` and what belongs to it read values, each giving the value and the
rest; a text is read line by line, and each line changes the tables read so far.
The whole text has to keep to the grammar before anything is made of it. -/
namespace FactoryGen.Toml.Reader

/-- How deeply lists and tables may be nested in values. -/
def depthLimit : Nat := 80

/-- A text without a character that has to be in front, blanks aside. -/
def readMark (mark : Char) (input : List Char) : Option (List Char) :=
  match input.dropWhile Text.isSpace with
  | c :: rest => if c = mark then some rest else none
  | [] => none

/-- A text without blanks, line breaks and comments in front. -/
def skip (input : List Char) : Option (List Char) := Text.readGap (input.length + 1) input

mutual

/-- A value that may be nested so deeply, and the rest. -/
def readValue : Nat → Nat → List Char → Option (Document × List Char)
  | 0, _, _ => none
  | fuel + 1, depth, input =>
    match input with
    | '"' :: _ | '\'' :: _ =>
      (Text.readAny? input).map fun (text, rest) => (.text (some (String.ofList text)), rest)
    | '[' :: rest =>
      match depth with
      | 0 => none
      | depth + 1 =>
        (readItems fuel depth rest).map fun (items, rest) => (.list items, rest)
    | '\x7b' :: rest =>
      match depth with
      | 0 => none
      | depth + 1 =>
        (readEntries fuel depth [] rest).map fun (table, rest) => (table.document, rest)
    | input => Scalar.readFirst input

/-- The items of a list, up to and with its end. -/
def readItems : Nat → Nat → List Char → Option (List Document × List Char)
  | 0, _, _ => none
  | fuel + 1, depth, input => do
    match ← skip input with
    | ']' :: rest => some ([], rest)
    | input =>
      let (item, rest) ← readValue fuel depth input
      match ← skip rest with
      | ']' :: rest => some ([item], rest)
      | ',' :: rest =>
        let (items, rest) ← readItems fuel depth rest
        some (item :: items, rest)
      | _ => none

/-- The entries of a table, up to and with its end, added to those already read. -/
def readEntries : Nat → Nat → Table → List Char → Option (Table × List Char)
  | 0, _, _, _ => none
  | fuel + 1, depth, table, input => do
    match ← skip input with
    | '\x7d' :: rest => some (table, rest)
    | input =>
      let (keys, rest) ← Text.readKeys (input.length + 1) input
      let rest ← readMark '=' rest
      let (value, rest) ← readValue fuel depth (rest.dropWhile Text.isSpace)
      let table ← table.assign value keys
      match ← skip rest with
      | '\x7d' :: rest => some (table, rest)
      | ',' :: rest => readEntries fuel depth table rest
      | _ => none

end

/-- The tables read so far, and the header that the next entries belong to. -/
structure Progress where
  table : Table := []
  header : List String := []

/-- A line with a header of a list of tables, its opening brackets read already. -/
def readListHeader (progress : Progress) (input : List Char) : Option (Progress × List Char) := do
  let (keys, rest) ← Text.readKeys (input.length + 1) input
  match rest with
  | ']' :: ']' :: rest =>
    let table ← progress.table.atHeader Table.extend keys
    return (⟨table, keys⟩, rest)
  | _ => none

/-- A line with a header of a table, its opening bracket read already. -/
def readHeader (progress : Progress) (input : List Char) : Option (Progress × List Char) := do
  let (keys, rest) ← Text.readKeys (input.length + 1) input
  match rest with
  | ']' :: rest =>
    let table ← progress.table.atHeader Table.head keys
    return (⟨table, keys⟩, rest)
  | _ => none

/-- A line with a key and a value. -/
def readEntry (progress : Progress) (input : List Char) : Option (Progress × List Char) := do
  let (keys, rest) ← Text.readKeys (input.length + 1) input
  let rest ← readMark '=' rest
  let (value, rest) ← readValue (rest.length + 1) depthLimit (rest.dropWhile Text.isSpace)
  let table ← progress.table.within (Table.assign value keys) progress.header
  return ({ progress with table }, rest)

/-- What a line says, without its end. -/
def readLine (progress : Progress) : List Char → Option (Progress × List Char)
  | '[' :: '[' :: rest => readListHeader progress rest
  | '[' :: rest => readHeader progress rest
  | input => readEntry progress input

def readLines : Nat → Progress → List Char → Option Table
  | 0, _, _ => none
  | fuel + 1, progress, input => do
    match ← skip input with
    | [] => some progress.table
    | input =>
      let (progress, rest) ← readLine progress input
      readLines fuel progress (← Text.readLineEnd rest)

/-- The document that a text stands for. A mark of the byte order does not count. -/
def read (text : String) : Option Document :=
  let input := match text.toList with
    | '\ufeff' :: rest => rest
    | input => input
  (readLines (input.length + 1) {} input).map Table.document

end FactoryGen.Toml.Reader

import FactoryGen.Json.Basic

/-! What a reader made of a text.

Reading goes from left to right and stops at the first place that breaks the
grammar. A `Document` holds all that was read up to there: the place itself is a
`broken` leaf, and since nothing after it was read, it is the last leaf of its
branch. Whoever looks for data in the tree therefore meets a mistake in the data
before a mistake in the grammar exactly if it stands before it in the text.

Some leaves are well formed and still hold no value, such as a text that escapes
half a surrogate pair; they are harmless as long as nobody asks for the value. -/
namespace FactoryGen

/-- A document as read. -/
inductive Document where
  | null
  | bool (value : Bool)
  /-- A number, if there is one of that size. -/
  | number (value : Option Numeral)
  /-- A text, if it consists of characters. -/
  | text (value : Option String)
  /-- A date, a time of day, or both. -/
  | moment
  | list (items : List Document)
  /-- Entries in the order they are to be looked at, with their keys if those are
  texts. -/
  | table (entries : List (Option String × Document))
  /-- The place where the text broke the grammar, or where it has a number beyond all
  bounds. -/
  | broken
deriving Repr, Inhabited

namespace Document

mutual

/-- Whether a document was read to its end. -/
def whole : Document → Bool
  | .broken => false
  | .list items => wholeItems items
  | .table entries => wholeEntries entries
  | _ => true

def wholeItems : List Document → Bool
  | [] => true
  | item :: rest => item.whole && wholeItems rest

def wholeEntries : List (Option String × Document) → Bool
  | [] => true
  | (_, value) :: rest => value.whole && wholeEntries rest

end

mutual

/-- The value that a document holds, if each of its leaves has one. -/
def value? : Document → Option Json
  | .null => some .null
  | .bool value => some (.bool value)
  | .number value => value.map .number
  | .text value => value.map .text
  | .list items => (values? items).map .list
  | .table entries => (members? entries).map .object
  | .moment | .broken => none

def values? : List Document → Option (List Json)
  | [] => some []
  | item :: rest =>
    match item.value?, values? rest with
    | some value, some values => some (value :: values)
    | _, _ => none

def members? : List (Option String × Document) → Option (List (String × Json))
  | [] => some []
  | (key, item) :: rest =>
    match key, item.value?, members? rest with
    | some key, some value, some members => some ((key, value) :: members)
    | _, _, _ => none

end

mutual

/-- The document that holds a value. -/
def ofJson : Json → Document
  | .null => .null
  | .bool value => .bool value
  | .number value => .number (some value)
  | .text value => .text (some value)
  | .list items => .list (ofItems items)
  | .object members => .table (ofMembers members)

def ofItems : List Json → List Document
  | [] => []
  | item :: rest => ofJson item :: ofItems rest

def ofMembers : List (String × Json) → List (Option String × Document)
  | [] => []
  | (key, value) :: rest => (some key, ofJson value) :: ofMembers rest

end

end Document
end FactoryGen

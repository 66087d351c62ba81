import FactoryGen.Document.Basic
import FactoryGen.Text.Quoted

/-! Getting typed data out of documents.

A decoder looks for one kind of value; a `Record` describes a structure by its
fields. A structure may be written as a table or as the list of its fields in
order. Tables may hold keys that no field has, and may leave out fields that have
a value of their own; what they must not do is to give a field twice or to leave
out a required one. Entries are looked at in the order the document has them, and
the first mistake is the one that is reported (`Record.ofEntries`).

The formats that documents come from differ in a few small points, which a `Dialect`
holds. -/
namespace FactoryGen

/-- What stood in a document where something else was expected. -/
inductive Found where
  | null
  | boolean (value : Bool)
  | number (value : Numeral)
  | text (value : String)
  | list
  | table
deriving DecidableEq, Repr

/-- How a message names what was found. -/
def Found.message : Found → String
  | .null => "null"
  | .boolean true => "boolean `true`"
  | .boolean false => "boolean `false`"
  | .number (.integer value) => "integer `" ++ toString value ++ "`"
  | .number (.binary value) => "floating point `" ++ Number.Layout.inMessages.text value ++ "`"
  | .text value => "string " ++ Text.quoted value
  | .list => "sequence"
  | .table => "map"

/-- Why a document does not hold the data that was asked for. -/
inductive Mismatch where
  | missing (field : String)
  | duplicate (field : String)
  | unknownVariant (found : String) (known : List String)
  | wrongKind (found : Found) (expected : String)
  | wrongLength (length : Nat) (type : String) (fields : Nat)
  /-- The text breaks its grammar here, or there is no value of that size. -/
  | unreadable
deriving DecidableEq, Repr

/-- Names between marks, with commas between them. -/
def Mismatch.listing (names : List String) : String :=
  ", ".intercalate (names.map fun name => "`" ++ name ++ "`")

def Mismatch.message : Mismatch → String
  | .missing field => "missing field `" ++ field ++ "`"
  | .duplicate field => "duplicate field `" ++ field ++ "`"
  | .unknownVariant found [first, second] =>
    "unknown variant `" ++ found ++ "`, expected `" ++ first ++ "` or `" ++ second ++ "`"
  | .unknownVariant found known =>
    "unknown variant `" ++ found ++ "`, expected one of " ++ Mismatch.listing known
  | .wrongKind found expected => "invalid type: " ++ found.message ++ ", expected " ++ expected
  | .wrongLength length type fields =>
    "invalid length " ++ toString length ++ ", expected struct " ++ type ++ " with " ++
      toString fields ++ " elements"
  | .unreadable => "<parse>"

/-- What a document is, as far as it has a value. -/
def Document.found? : Document → Option Found
  | .null => some .null
  | .bool value => some (.boolean value)
  | .number value => value.map .number
  | .text value => value.map .text
  | .moment | .table _ => some .table
  | .list _ => some .list
  | .broken => none

/-- The mistake of a document that is none of what was expected. -/
def Document.mismatch (document : Document) (expected : String) : Mismatch :=
  match document.found? with
  | some found => .wrongKind found expected
  | none => .unreadable

/-- What formats disagree about. -/
structure Dialect where
  /-- Whether a list may go on after the last field of a structure. -/
  ignoresSurplus : Bool
  /-- Whether a table in the place of a variant is known to have one key before that
  key is looked at. -/
  countsFirst : Bool
  /-- Whether a document may stand behind the name of a variant. -/
  payload : Document → Except Mismatch Unit

/-- A way to get a value out of a document. -/
abbrev Decoder (α : Type) := Dialect → Document → Except Mismatch α

namespace Decoder

def text : Decoder String := fun _ document =>
  match document with
  | .text (some value) => .ok value
  | document => .error (document.mismatch "a string")

def bool : Decoder Bool := fun _ document =>
  match document with
  | .bool value => .ok value
  | document => .error (document.mismatch "a boolean")

/-- A value or null. -/
def optional {α : Type} (decoder : Decoder α) : Decoder (Option α) := fun dialect document =>
  match document with
  | .null => .ok none
  | document => (decoder dialect document).map some

/-- The items of a list, from the first to the last. -/
def items {α : Type} (decoder : Decoder α) (dialect : Dialect) :
    List Document → Except Mismatch (List α)
  | [] => .ok []
  | item :: rest => do
    let value ← decoder dialect item
    let values ← items decoder dialect rest
    return value :: values

def list {α : Type} (decoder : Decoder α) : Decoder (List α) := fun dialect document =>
  match document with
  | .list parts => items decoder dialect parts
  | document => .error (document.mismatch "a sequence")

/-- The variant with a given name. -/
def variantNamed {α : Type} (variants : List (String × α)) (name : String) : Except Mismatch α :=
  match variants.find? (·.1 == name) with
  | some (_, value) => .ok value
  | none => .error (.unknownVariant name (variants.map (·.1)))

/-- One of some variants: its name, or a table whose only key is its name. -/
def variant {α : Type} (variants : List (String × α)) : Decoder α := fun dialect document =>
  match document with
  | .text (some name) => variantNamed variants name
  | .table ((some name, payload) :: rest) =>
    if dialect.countsFirst && !rest.isEmpty then .error .unreadable
    else do
      let value ← variantNamed variants name
      dialect.payload payload
      if rest.isEmpty then .ok value else .error .unreadable
  | _ => .error .unreadable

end Decoder

/-- A field of a structure of type `α`. -/
structure Field (α : Type) where
  name : String
  /-- Whether the structure has no value of its own for the field. -/
  required : Bool
  /-- The structure with the field's value taken from a document. -/
  store : Dialect → Document → α → Except Mismatch α

/-- A field whose value a decoder gives. -/
def Field.of {α β : Type} (name : String) (required : Bool) (decoder : Decoder β)
    (update : β → α → α) : Field α :=
  ⟨name, required, fun dialect document value => do
    let part ← decoder dialect document
    return update part value⟩

/-- A structure as documents write it. -/
structure Record (α : Type) where
  /-- The name of the structure in messages. -/
  type : String
  /-- The structure before any field is read. -/
  blank : α
  /-- The fields, in the order of the list form. -/
  fields : List (Field α)

namespace Record
variable {α : Type} (record : Record α) (dialect : Dialect)

/-- The structure in a table. A required field is missed once every entry has been
looked at. -/
def ofEntries : List (Option String × Document) → List String → α → Except Mismatch α
  | [], seen, value =>
    match record.fields.find? fun field => field.required && !seen.contains field.name with
    | some field => .error (.missing field.name)
    | none => .ok value
  | (none, _) :: _, _, _ => .error .unreadable
  | (some key, document) :: rest, seen, value =>
    match record.fields.find? fun field => field.name == key with
    | none =>
      if document.whole then ofEntries rest seen value else .error .unreadable
    | some field =>
      if seen.contains key then .error (.duplicate key)
      else
        match field.store dialect document value with
        | .ok value => ofEntries rest (key :: seen) value
        | .error mismatch => .error mismatch

/-- The structure in a list, whose items are the fields in order. -/
def ofItems : List (Field α) → Nat → List Document → α → Except Mismatch α
  | [], _, items, value =>
    if items.isEmpty || dialect.ignoresSurplus then .ok value else .error .unreadable
  | field :: fields, index, [], value =>
    if field.required then .error (.wrongLength index record.type record.fields.length)
    else ofItems fields (index + 1) [] value
  | field :: fields, index, item :: items, value =>
    match field.store dialect item value with
    | .ok value => ofItems fields (index + 1) items value
    | .error mismatch => .error mismatch

/-- The structure in a document. A moment counts as a table that has none of the
fields. -/
def decoder : Decoder α := fun dialect document =>
  match document with
  | .table entries => record.ofEntries dialect entries [] record.blank
  | .moment => record.ofEntries dialect [] [] record.blank
  | .list items => record.ofItems dialect record.fields 0 items record.blank
  | document => .error (document.mismatch ("struct " ++ record.type))

end Record
end FactoryGen

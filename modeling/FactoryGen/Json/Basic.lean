import FactoryGen.Number.Numeral

/-! JSON values.

An object is the list of its members in the order they are written; whoever needs
another order asks for it (`sorted`). Summaries keep the order their fields are
declared in, while values of a free form are shown with their keys in order. -/
namespace FactoryGen

inductive Json where
  | null
  | bool (value : Bool)
  | number (value : Numeral)
  | text (value : String)
  | list (items : List Json)
  | object (members : List (String × Json))
deriving Repr, Inhabited

namespace Json

def ofNat (n : Nat) : Json := .number (.integer n)

/-- A text or nothing. -/
def ofText? : Option String → Json
  | some value => .text value
  | none => .null

/-- The value under a key; the first, if there are several. -/
def lookup? (key : String) : List (String × Json) → Option Json
  | [] => none
  | (k, value) :: rest => if k = key then some value else lookup? key rest

/-- A member put in its place among members with smaller and greater keys. A member
with the same key is replaced. -/
def insertMember (key : String) (value : Json) : List (String × Json) → List (String × Json)
  | [] => [(key, value)]
  | (k, v) :: rest =>
    if key = k then (key, value) :: rest
    else if key < k then (key, value) :: (k, v) :: rest
    else (k, v) :: insertMember key value rest

/-- Members in ascending order of their keys; of two with one key the later
stays. -/
def sortMembers (members : List (String × Json)) : List (String × Json) :=
  members.foldl (fun sorted (key, value) => insertMember key value sorted) []

mutual

/-- The value with the members of every object in ascending order of their keys. -/
def sorted : Json → Json
  | .list items => .list (sortedItems items)
  | .object members => .object (sortMembers (sortedMembers members))
  | value => value

def sortedItems : List Json → List Json
  | [] => []
  | item :: rest => item.sorted :: sortedItems rest

def sortedMembers : List (String × Json) → List (String × Json)
  | [] => []
  | (key, value) :: rest => (key, value.sorted) :: sortedMembers rest

end

/-- Whether a value counts as something in a condition: not null, not false, not
zero, and not empty. -/
def isTruthy : Json → Bool
  | .null => false
  | .bool value => value
  | .number value => value.isTruthy
  | .text value => value != ""
  | .list items => !items.isEmpty
  | .object members => !members.isEmpty

end Json
end FactoryGen

import FactoryGen.Document.Decoding
import FactoryGen.Json.Reader

/-! Typed data from JSON text. Reading and decoding go hand in hand from left to
right: what comes after the value is only looked at if the value itself is right. -/
namespace FactoryGen.Json

/-- In JSON, lists are as long as the structure, and null stands behind the name of a
variant. -/
def dialect : Dialect where
  ignoresSurplus := false
  countsFirst := false
  payload
    | .null => .ok ()
    | document => .error (document.mismatch "unit")

/-- The data in a text. -/
def decode {α : Type} (decoder : Decoder α) (text : String) : Except Mismatch α :=
  let (document, finished) := read text.toList
  match decoder dialect document with
  | .ok value => if finished then .ok value else .error .unreadable
  | .error mismatch => .error mismatch

end FactoryGen.Json

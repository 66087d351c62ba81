import FactoryGen.Document.Decoding
import FactoryGen.Toml.Reader

/-! Typed data from TOML text. The text is read to its end before anything is taken
from it. -/
namespace FactoryGen.Toml

/-- In TOML, lists may be longer than the structure, and something empty stands behind
the name of a variant. -/
def dialect : Dialect where
  ignoresSurplus := true
  countsFirst := true
  payload
    | .table [] | .list [] => .ok ()
    | _ => .error .unreadable

/-- The data in a text. -/
def decode {α : Type} (decoder : Decoder α) (text : String) : Except Mismatch α :=
  match Reader.read text with
  | some document => decoder dialect document
  | none => .error .unreadable

end FactoryGen.Toml

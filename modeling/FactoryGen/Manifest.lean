import FactoryGen.Json.Decoding
import FactoryGen.Settings
import FactoryGen.Symbol
import FactoryGen.Toml.Decoding

/-! Manifests: the settings of a run and the symbols to process.

A manifest is written in TOML or in JSON. Both give the same manifest for the same
data; settings are checked once the whole manifest is read. -/
namespace FactoryGen

/-- What a run works on. -/
structure Manifest where
  settings : Settings := {}
  symbols : List Symbol := []
deriving DecidableEq, Repr, Inhabited

namespace Manifest

def toJson (manifest : Manifest) : Json :=
  .object
    [("settings", manifest.settings.toJson),
     ("symbols", .list (manifest.symbols.map Symbol.toJson))]

/-- A manifest in a document. Nothing in it is required. -/
def record : Record Manifest where
  type := "Manifest"
  blank := {}
  fields :=
    [.of "settings" false Settings.record.decoder
       fun settings manifest => { manifest with settings },
     .of "symbols" false Symbol.record.decoder.list
       fun symbols manifest => { manifest with symbols }]

inductive Format where
  | toml
  | json
deriving DecidableEq, Repr, Inhabited

namespace Format

/-- The name of a format in messages. -/
def name : Format → String
  | .toml => "TOML"
  | .json => "JSON"

/-- The data in a text of some format. -/
def decode {α : Type} (format : Format) (decoder : Decoder α) (text : String) :
    Except Mismatch α :=
  match format with
  | .toml => Toml.decode decoder text
  | .json => Json.decode decoder text

end Format

/-- How messages about manifests that cannot be read begin. -/
def complaint (format : Format) : String := "invalid " ++ format.name ++ " manifest: "

def read (format : Format) (text : String) : Except Problem Manifest :=
  match format.decode record.decoder text with
  | .error mismatch => .error (.configuration (complaint format ++ mismatch.message))
  | .ok manifest => manifest.settings.check.map fun _ => manifest

end Manifest
end FactoryGen

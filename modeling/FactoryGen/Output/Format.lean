import FactoryGen.Output.Pretty
import FactoryGen.Settings

/-! The formats of output: JSON over several lines, JSON on one line, and the form for
people. -/
namespace FactoryGen.Output

inductive Format where
  | json
  | text
  | pretty
deriving DecidableEq, Repr

/-- The form for people is the usual one. -/
instance : Inhabited Format := ⟨.pretty⟩

namespace Format

def name : Format → String
  | .json => "json"
  | .text => "text"
  | .pretty => "pretty"

def all : List Format := [.json, .text, .pretty]

/-- The format that a user means. -/
def parse (text : String) : Except Problem Format :=
  match named? name all text with
  | some format => .ok format
  | none =>
    .error (.argument
      ("invalid output format: '" ++ text ++ "' (expected: json, text, or pretty)"))

/-- A value in some format. -/
def write (format : Format) (colours : Bool) (value : Json) : String :=
  match format with
  | .json => value.indented
  | .text => value.compact
  | .pretty => Output.pretty colours value

/-- A diagnostic on one line, which only the form for people paints. -/
def diagnosticLine (format : Format) (colours : Bool) (diagnostic : Diagnostic) : String :=
  match format with
  | .pretty =>
    String.ofList ((Style.ofSeverity diagnostic.severity).paint colours
      diagnostic.severity.name.toList) ++ ": " ++ diagnostic.message
  | _ => diagnostic.line

end Format
end FactoryGen.Output

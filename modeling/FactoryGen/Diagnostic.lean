import FactoryGen.Document.Decoding
import FactoryGen.Problem

/-! Diagnostics: what a run has to say about single symbols. Each comes from a
problem; only a missing constructor is no more than a warning. -/
namespace FactoryGen

/-- How bad a diagnostic is. -/
inductive Severity where
  | error
  | warning
deriving DecidableEq, Repr, Inhabited

namespace Severity

def name : Severity → String
  | .error => "error"
  | .warning => "warning"

def all : List Severity := [.error, .warning]

def decoder : Decoder Severity := .variant (all.map fun severity => (severity.name, severity))

end Severity

/-- What a diagnostic is about. -/
inductive Topic where
  | notAClass
  | wrongSupertype
  | missingConstructor
  | invalidShape
  | generationFailed
deriving DecidableEq, Repr, Inhabited

namespace Topic

def name : Topic → String
  | .notAClass => "not_a_class"
  | .wrongSupertype => "wrong_supertype"
  | .missingConstructor => "missing_constructor"
  | .invalidShape => "invalid_descriptor"
  | .generationFailed => "generation_failed"

def all : List Topic :=
  [.notAClass, .wrongSupertype, .missingConstructor, .invalidShape, .generationFailed]

def decoder : Decoder Topic := .variant (all.map fun topic => (topic.name, topic))

/-- The topic of a problem. Whatever is not about the symbol itself is a failed
generation. -/
def ofProblem : Problem → Topic
  | .notAClass .. => .notAClass
  | .wrongSupertype .. => .wrongSupertype
  | .missingConstructor _ => .missingConstructor
  | .invalidShape .. => .invalidShape
  | _ => .generationFailed

end Topic

/-- Something to say about a symbol. -/
structure Diagnostic where
  severity : Severity
  topic : Topic
  /-- The name of the symbol together with its package. -/
  symbol : String
  message : String
deriving DecidableEq, Repr, Inhabited

namespace Diagnostic

/-- The diagnostic for a problem with a symbol. -/
def ofProblem (symbol : String) (problem : Problem) : Diagnostic where
  severity := match problem with
    | .missingConstructor _ => .warning
    | _ => .error
  topic := .ofProblem problem
  symbol := symbol
  message := problem.message

def isError (diagnostic : Diagnostic) : Bool := diagnostic.severity == .error

def line (diagnostic : Diagnostic) : String :=
  diagnostic.severity.name ++ ": " ++ diagnostic.message

def toJson (diagnostic : Diagnostic) : Json :=
  .object
    [("severity", .text diagnostic.severity.name),
     ("kind", .text diagnostic.topic.name),
     ("symbol", .text diagnostic.symbol),
     ("message", .text diagnostic.message)]

/-- A diagnostic in a document. Every field is required. -/
def record : Record Diagnostic where
  type := "Diagnostic"
  blank := ⟨.error, .notAClass, "", ""⟩
  fields :=
    [.of "severity" true Severity.decoder fun severity diagnostic => { diagnostic with severity },
     .of "kind" true Topic.decoder fun topic diagnostic => { diagnostic with topic },
     .of "symbol" true Decoder.text fun symbol diagnostic => { diagnostic with symbol },
     .of "message" true Decoder.text fun message diagnostic => { diagnostic with message }]

end Diagnostic
end FactoryGen

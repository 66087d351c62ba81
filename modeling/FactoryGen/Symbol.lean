import FactoryGen.Document.Decoding

/-! Symbols: what an annotation was found on.

A symbol is described by its name, its package, what kind of declaration it is,
the type it extends, and the parameters of its primary constructor. A class
without a primary constructor is told apart from one whose constructor takes
nothing. -/
namespace FactoryGen

structure Parameter where
  name : String
  type : String
deriving DecidableEq, Repr, Inhabited

/-- The kinds of declarations that can carry an annotation. -/
inductive SymbolKind where
  | regularClass
  | interface
  | enumClass
  | object
  | annotationClass
  | function
deriving DecidableEq, Repr, Inhabited

structure Symbol where
  name : String
  package : String := ""
  kind : SymbolKind := .regularClass
  supertype : Option String := none
  /-- The parameters of the primary constructor, if there is one. -/
  parameters : Option (List Parameter) := none
deriving DecidableEq, Repr, Inhabited

/-- A name behind the name of its package. The default package has no name. -/
def qualify (package name : String) : String :=
  if package = "" then name else package ++ "." ++ name

/-- The name of a symbol together with its package. -/
def Symbol.qualifiedName (symbol : Symbol) : String := qualify symbol.package symbol.name

namespace SymbolKind

def name : SymbolKind → String
  | .regularClass => "class"
  | .interface => "interface"
  | .enumClass => "enum"
  | .object => "object"
  | .annotationClass => "annotation_class"
  | .function => "function"

def all : List SymbolKind :=
  [.regularClass, .interface, .enumClass, .object, .annotationClass, .function]

/-- Only classes can be constructed by a factory. -/
def isClass : SymbolKind → Bool
  | .regularClass => true
  | _ => false

def decoder : Decoder SymbolKind := .variant (all.map fun kind => (kind.name, kind))

end SymbolKind

namespace Parameter

def toJson (parameter : Parameter) : Json :=
  .object [("name", .text parameter.name), ("type", .text parameter.type)]

def record : Record Parameter where
  type := "Parameter"
  blank := ⟨"", ""⟩
  fields :=
    [.of "name" true Decoder.text fun name parameter => { parameter with name },
     .of "type" true Decoder.text fun type parameter => { parameter with type }]

end Parameter

namespace Symbol

def toJson (symbol : Symbol) : Json :=
  .object
    [("name", .text symbol.name),
     ("package", .text symbol.package),
     ("kind", .text symbol.kind.name),
     ("supertype", .ofText? symbol.supertype),
     ("constructor", match symbol.parameters with
       | some parameters => .list (parameters.map Parameter.toJson)
       | none => .null)]

/-- A symbol in a document. Only its name is required. -/
def record : Record Symbol where
  type := "AnnotatedSymbol"
  blank := { name := "" }
  fields :=
    [.of "name" true Decoder.text fun name symbol => { symbol with name },
     .of "package" false Decoder.text fun package symbol => { symbol with package },
     .of "kind" false SymbolKind.decoder fun kind symbol => { symbol with kind },
     .of "supertype" false Decoder.text.optional fun supertype symbol => { symbol with supertype },
     .of "constructor" false Parameter.record.decoder.list.optional
       fun parameters symbol => { symbol with parameters }]

end Symbol
end FactoryGen

import FactoryGen.Settings
import FactoryGen.Shape

/-! What is written into a factory.

A `Factory` gathers everything that the text of a generated class depends on, with
every name in the form that source text has it in. `Factory.source` writes it out:
it is the plain account of what a factory looks like, and templates are measured
against it. -/
namespace FactoryGen

/-- A parameter as source text has it. -/
structure Factory.Parameter where
  name : String
  type : String
deriving DecidableEq, Repr, Inhabited

/-- What a generated class is made of. -/
structure Factory where
  /-- The comment on top of the file. -/
  marker : String
  /-- The package, with keywords between backticks. -/
  package : String
  /-- The name of the factory. -/
  name : String
  /-- The name of the class that it creates. -/
  className : String
  /-- The interface that it implements. -/
  interface : String
  /-- The type that the class extends. -/
  baseType : String
  /-- What it passes to the constructor, names with keywords between backticks. -/
  parameters : List Factory.Parameter
  /-- Whether it compares classes before it casts. -/
  checked : Bool
deriving DecidableEq, Repr, Inhabited

namespace Factory

/-- The factory for a class. -/
def ofShape (settings : Settings) (shape : Shape) : Factory where
  marker := settings.marker
  package := Kotlin.escapePackage shape.package
  name := shape.factoryName
  className := shape.className
  interface := settings.factoryInterface
  baseType := settings.baseType
  parameters := shape.parameters.map fun parameter =>
    ⟨Kotlin.escape (Kotlin.strip parameter.name), Kotlin.strip parameter.type⟩
  checked := settings.strategy == .checked

/-- The parameters of the factory's own constructor. -/
def signature (factory : Factory) : String :=
  ", ".intercalate (factory.parameters.map fun parameter => parameter.name ++ ": " ++ parameter.type)

/-- The arguments of the call that creates the class. -/
def arguments (factory : Factory) : String :=
  ", ".intercalate (factory.parameters.map (·.name))

/-- The line that opens the `create` method. -/
def createLine (factory : Factory) : String :=
  "    override fun <T : " ++ factory.baseType ++
    "> create(modelClass: java.lang.Class<T>): T \x7b"

def createLines (factory : Factory) : List String :=
  if factory.checked then
    [factory.createLine,
     "        require(modelClass.isAssignableFrom(" ++ factory.className ++ "::class.java)) \x7b",
     "            \"" ++ factory.name ++ " cannot create $\x7bmodelClass.name\x7d\"",
     "        \x7d",
     "        return modelClass.cast(" ++ factory.className ++ "(" ++ factory.arguments ++ "))",
     "    \x7d"]
  else
    ["    @Suppress(\"UNCHECKED_CAST\")",
     factory.createLine,
     "        return " ++ factory.className ++ "(" ++ factory.arguments ++ ") as T",
     "    \x7d"]

/-- The lines of the file. -/
def lines (factory : Factory) : List String :=
  ["// " ++ factory.marker] ++
  (if factory.package = "" then [] else ["package " ++ factory.package, ""]) ++
  ["class " ++ factory.name ++ "(" ++ factory.signature ++ ") : " ++ factory.interface ++ " \x7b"] ++
  (factory.parameters.map fun parameter =>
    "    val " ++ parameter.name ++ ": " ++ parameter.type ++ " = " ++ parameter.name) ++
  (if factory.parameters.isEmpty then [] else [""]) ++
  factory.createLines ++
  ["\x7d"]

/-- The text of the file: its lines, each with a line break. -/
def source (factory : Factory) : String := String.join (factory.lines.map (· ++ "\n"))

namespace Parameter

def toJson (parameter : Factory.Parameter) : Json :=
  .object [("name", .text parameter.name), ("type_name", .text parameter.type)]

def record : Record Factory.Parameter where
  type := "ParameterContext"
  blank := ⟨"", ""⟩
  fields :=
    [.of "name" true Decoder.text fun name parameter => { parameter with name },
     .of "type_name" true Decoder.text fun type parameter => { parameter with type }]

end Parameter

/-- A factory as a document, which is what templates are rendered with. -/
def toJson (factory : Factory) : Json :=
  .object
    [("marker", .text factory.marker),
     ("package_name", .text factory.package),
     ("factory_name", .text factory.name),
     ("class_name", .text factory.className),
     ("factory_interface", .text factory.interface),
     ("base_type", .text factory.baseType),
     ("parameters", .list (factory.parameters.map Parameter.toJson)),
     ("checked", .bool factory.checked)]

/-- A factory in a document. Every field is required. -/
def record : Record Factory where
  type := "FactoryContext"
  blank := ⟨"", "", "", "", "", "", [], false⟩
  fields :=
    [.of "marker" true Decoder.text fun marker factory => { factory with marker },
     .of "package_name" true Decoder.text fun package factory => { factory with package },
     .of "factory_name" true Decoder.text fun name factory => { factory with name },
     .of "class_name" true Decoder.text fun className factory => { factory with className },
     .of "factory_interface" true Decoder.text
       fun interface factory => { factory with interface },
     .of "base_type" true Decoder.text fun baseType factory => { factory with baseType },
     .of "parameters" true Parameter.record.decoder.list
       fun parameters factory => { factory with parameters },
     .of "checked" true Decoder.bool fun checked factory => { factory with checked }]

end Factory
end FactoryGen

import FactoryGen.Kotlin.Package
import FactoryGen.Kotlin.TypeReference
import FactoryGen.Problem
import FactoryGen.Symbol

/-! The shape of a class: what a factory for it has to know, which is its name, its
package, the type it extends and the parameters of its constructor.

`Shape.defect?` names the first rule that a shape breaks: the name of the class,
the package, then the parameters from left to right, of each first the name, then
the type, then whether an earlier parameter has its name. `Symbol.shape` is the
gate that annotated symbols come through. -/
namespace FactoryGen

structure Shape where
  className : String
  package : String
  /-- The type that the class extends. -/
  supertype : String
  parameters : List Parameter
deriving DecidableEq, Repr, Inhabited

/-- A parameter without the backticks that metadata puts around keywords. -/
def Parameter.strip (parameter : Parameter) : Parameter :=
  ⟨Kotlin.strip parameter.name, Kotlin.strip parameter.type⟩

namespace Shape

def factoryName (shape : Shape) : String := shape.className ++ "Factory"

/-- The name of the class together with its package. -/
def qualifiedName (shape : Shape) : String := qualify shape.package shape.className

/-- The shape with its parameters as source text means them. -/
def strip (shape : Shape) : Shape :=
  { shape with parameters := shape.parameters.map Parameter.strip }

/-- A rule that a shape can break. Names and types are told as they were given,
except where a parameter is only referred to. -/
inductive Defect where
  | className (given : String)
  | package (given : String)
  | parameterName (given : String)
  | parameterType (parameter given : String)
  | repeatedParameter (parameter : String)
deriving DecidableEq, Repr

def Defect.message : Defect → String
  | .className given => "'" ++ given ++ "' is not a valid class name"
  | .package given => "'" ++ given ++ "' is not a valid package name"
  | .parameterName given => "'" ++ given ++ "' is not a valid parameter name"
  | .parameterType parameter given =>
    "parameter '" ++ parameter ++ "' has invalid type '" ++ given ++ "'"
  | .repeatedParameter parameter => "duplicate parameter '" ++ parameter ++ "'"

/-- The first rule broken by some parameters, given the names that came before. -/
def parametersDefect? : List String → List Parameter → Option Defect
  | _, [] => none
  | seen, parameter :: rest =>
    let name := Kotlin.strip parameter.name
    if !Kotlin.isIdentifier name then some (.parameterName parameter.name)
    else if !Kotlin.isTypeReference (Kotlin.strip parameter.type) then
      some (.parameterType name parameter.type)
    else if seen.contains name then some (.repeatedParameter name)
    else parametersDefect? (name :: seen) rest

/-- The first rule that a shape breaks. -/
def defect? (shape : Shape) : Option Defect :=
  if !Kotlin.isIdentifier shape.className || Kotlin.isHardKeyword shape.className then
    some (.className shape.className)
  else if !Kotlin.isPackage shape.package then some (.package shape.package)
  else parametersDefect? [] shape.parameters

/-- Parameters that break no rule have names of their own, and each has the form of a
name and of a type. -/
theorem parametersDefect?_eq_none_iff (seen : List String) (parameters : List Parameter) :
    parametersDefect? seen parameters = none ↔
      (∀ parameter ∈ parameters, Kotlin.isIdentifier (Kotlin.strip parameter.name) = true ∧
        Kotlin.isTypeReference (Kotlin.strip parameter.type) = true ∧
        Kotlin.strip parameter.name ∉ seen) ∧
      (parameters.map fun parameter => Kotlin.strip parameter.name).Nodup := by
  induction parameters generalizing seen with
  | nil => simp [parametersDefect?]
  | cons parameter rest ih =>
    simp only [parametersDefect?, List.contains_iff_mem, List.forall_mem_cons, List.map_cons,
      List.nodup_cons]
    by_cases hname : Kotlin.isIdentifier (Kotlin.strip parameter.name) = true
    · by_cases htype : Kotlin.isTypeReference (Kotlin.strip parameter.type) = true
      · by_cases hseen : Kotlin.strip parameter.name ∈ seen
        · simp [hname, htype, hseen]
        · simp only [hname, htype, hseen, Bool.not_true, Bool.false_eq_true, if_false, ih]
          -- The name is new to the rest if and only if the rest does not repeat it.
          grind
      · simp [hname, htype]
    · simp [hname]

/-- What the rules come to. -/
theorem defect?_eq_none_iff (shape : Shape) :
    shape.defect? = none ↔
      Kotlin.isIdentifier shape.className = true ∧
      Kotlin.isHardKeyword shape.className = false ∧
      Kotlin.isPackage shape.package = true ∧
      (∀ parameter ∈ shape.parameters, Kotlin.isIdentifier (Kotlin.strip parameter.name) = true ∧
        Kotlin.isTypeReference (Kotlin.strip parameter.type) = true) ∧
      (shape.parameters.map fun parameter => Kotlin.strip parameter.name).Nodup := by
  have hparameters := parametersDefect?_eq_none_iff [] shape.parameters
  simp only [List.not_mem_nil, not_false_eq_true, and_true] at hparameters
  by_cases hname : Kotlin.isIdentifier shape.className = true
  · by_cases hkeyword : Kotlin.isHardKeyword shape.className = true
    · simp [defect?, hname, hkeyword]
    · by_cases hpackage : Kotlin.isPackage shape.package = true
      · simpa [defect?, hname, hkeyword, hpackage] using hparameters
      · simp [defect?, hname, hkeyword, hpackage]
  · simp [defect?, hname]

/-- The problem of a shape that breaks a rule. -/
def problem (shape : Shape) (defect : Defect) : Problem :=
  .invalidShape shape.className defect.message

/-- Whether a factory can be made for a class. -/
def check (shape : Shape) : Except Problem Unit :=
  match shape.defect? with
  | none => .ok ()
  | some defect => .error (shape.problem defect)

def toJson (shape : Shape) : Json :=
  .object
    [("class_name", .text shape.className),
     ("package_name", .text shape.package),
     ("declared_supertype", .text shape.supertype),
     ("parameters", .list (shape.parameters.map Parameter.toJson))]

/-- A shape in a document. Every field is required. -/
def record : Record Shape where
  type := "ClassDescriptor"
  blank := ⟨"", "", "", []⟩
  fields :=
    [.of "class_name" true Decoder.text fun className shape => { shape with className },
     .of "package_name" true Decoder.text fun package shape => { shape with package },
     .of "declared_supertype" true Decoder.text fun supertype shape => { shape with supertype },
     .of "parameters" true Parameter.record.decoder.list
       fun parameters shape => { shape with parameters }]

end Shape

namespace Symbol

/-- The shape that a symbol would have if it were a class extending the base type. A
missing constructor counts as one without parameters. -/
def rawShape (baseType : String) (symbol : Symbol) : Shape :=
  ⟨symbol.name, symbol.package, baseType, symbol.parameters.getD []⟩

/-- The shape of a symbol that can be given a factory: a class that extends the base
type and breaks no rule. -/
def shape (baseType : String) (symbol : Symbol) : Except Problem Shape :=
  if !symbol.kind.isClass then .error (.notAClass symbol.name symbol.kind.name)
  else if symbol.supertype ≠ some baseType then
    .error (.wrongSupertype symbol.name baseType symbol.supertype)
  else
    let shape := (symbol.rawShape baseType).strip
    match shape.defect? with
    | none => .ok shape
    | some defect => .error (shape.problem defect)

/-- What comes through the gate is the shape of a class that extends the base type, with
nothing left to strip, and it breaks no rule. -/
theorem shape_eq_ok_iff (baseType : String) (symbol : Symbol) (shape : Shape) :
    symbol.shape baseType = .ok shape ↔
      symbol.kind.isClass = true ∧ symbol.supertype = some baseType ∧
        shape = (symbol.rawShape baseType).strip ∧ shape.defect? = none := by
  by_cases hkind : symbol.kind.isClass = true
  · by_cases hsupertype : symbol.supertype = some baseType
    · simp only [Symbol.shape, hkind, hsupertype, Bool.not_true, Bool.false_eq_true, if_false,
        ne_eq, not_true_eq_false, true_and]
      constructor
      · intro h
        split at h
        · next hsound =>
          cases h
          exact ⟨rfl, hsound⟩
        · cases h
      · rintro ⟨rfl, hsound⟩
        rw [hsound]
    · simp [Symbol.shape, hkind, hsupertype]
  · simp [Symbol.shape, hkind]

end Symbol
end FactoryGen

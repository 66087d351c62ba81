import FactoryGen.Document.Decoding
import FactoryGen.Problem
import FactoryGen.Unicode.Blank

/-! Settings of a run: the type that classes have to extend, the interface that
factories implement, the line that marks a generated file, and how the `create`
method guards its cast.

Settings are usable if the two types are not blank and the marker fits on one
line; `defect?` names the first rule that is broken. -/
namespace FactoryGen

/-- How a factory makes sure that it was asked for the right class. -/
inductive CreateStrategy where
  /-- It does not; the result is cast without a check. -/
  | unchecked
  /-- It compares classes first. -/
  | checked
deriving DecidableEq, Repr, Inhabited

namespace CreateStrategy

def name : CreateStrategy → String
  | .unchecked => "unchecked"
  | .checked => "checked"

def all : List CreateStrategy := [.unchecked, .checked]

def decoder : Decoder CreateStrategy := .variant (all.map fun strategy => (strategy.name, strategy))

end CreateStrategy

/-- A character in lower case, as far as it matters for words in ASCII: apart from
the capital letters, only the Kelvin sign has an ASCII letter for its lower
case. -/
def asciiLower (c : Char) : Char :=
  if 'A' ≤ c ∧ c ≤ 'Z' then Char.ofNat (c.toNat + 32)
  else if c.toNat = 0x212a then 'k'
  else c

/-- The first of some values whose name is the text in lower case. -/
def named? {α : Type} (name : α → String) (values : List α) (text : String) : Option α :=
  values.find? fun value => (name value).toList == text.toList.map asciiLower

/-- The strategy that a user means. -/
def CreateStrategy.parse (text : String) : Except Problem CreateStrategy :=
  match named? CreateStrategy.name CreateStrategy.all text with
  | some strategy => .ok strategy
  | none =>
    .error (.argument
      ("invalid create strategy: '" ++ text ++ "' (expected: unchecked or checked)"))

structure Settings where
  /-- The type that every annotated class has to extend. -/
  baseType : String := "androidx.lifecycle.ViewModel"
  /-- The interface that every factory implements. -/
  factoryInterface : String := "androidx.lifecycle.ViewModelProvider.Factory"
  /-- The text of the comment on top of a generated file. -/
  marker : String := "Generated by Producible"
  strategy : CreateStrategy := .unchecked
deriving DecidableEq, Repr, Inhabited

namespace Settings

/-- A rule that settings can break. -/
inductive Defect where
  | blankBaseType
  | blankFactoryInterface
  | brokenMarker
deriving DecidableEq, Repr

def Defect.message : Defect → String
  | .blankBaseType => "base_type cannot be empty"
  | .blankFactoryInterface => "factory_interface cannot be empty"
  | .brokenMarker => "marker must be a single line"

/-- The first rule that is broken. -/
def defect? (settings : Settings) : Option Defect :=
  if Unicode.isBlankText settings.baseType then some .blankBaseType
  else if Unicode.isBlankText settings.factoryInterface then some .blankFactoryInterface
  else if settings.marker.toList.any fun c => c == '\n' || c == '\r' then some .brokenMarker
  else none

/-- What the rules come to. -/
theorem defect?_eq_none_iff (settings : Settings) :
    settings.defect? = none ↔
      Unicode.isBlankText settings.baseType = false ∧
      Unicode.isBlankText settings.factoryInterface = false ∧
      ∀ c ∈ settings.marker.toList, c ≠ '\n' ∧ c ≠ '\r' := by
  by_cases hbase : Unicode.isBlankText settings.baseType = true
  · simp [defect?, hbase]
  · by_cases hinterface : Unicode.isBlankText settings.factoryInterface = true
    · simp [defect?, hbase, hinterface]
    · simp [defect?, hbase, hinterface]

/-- Whether the settings can be used. -/
def check (settings : Settings) : Except Problem Unit :=
  match settings.defect? with
  | none => .ok ()
  | some defect => .error (.configuration defect.message)

def toJson (settings : Settings) : Json :=
  .object
    [("base_type", .text settings.baseType),
     ("factory_interface", .text settings.factoryInterface),
     ("marker", .text settings.marker),
     ("create_strategy", .text settings.strategy.name)]

/-- Settings in a document. Every field has a value of its own. -/
def record : Record Settings where
  type := "GeneratorSettings"
  blank := {}
  fields :=
    [.of "base_type" false Decoder.text fun baseType settings => { settings with baseType },
     .of "factory_interface" false Decoder.text
       fun factoryInterface settings => { settings with factoryInterface },
     .of "marker" false Decoder.text fun marker settings => { settings with marker },
     .of "create_strategy" false CreateStrategy.decoder
       fun strategy settings => { settings with strategy }]

end Settings
end FactoryGen

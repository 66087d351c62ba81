import FactoryGen.Diagnostic
import FactoryGen.Factory
import FactoryGen.Manifest
import FactoryGen.Proofs.Compact
import FactoryGen.Proofs.Records
import FactoryGen.SourceFile

/-! Values that come back from their texts.

The document of a value and the decoder of its type are written apart from each other; what
makes them fit is that each part is found under the name it was written under, and that the
decoder of the part gives the part back. `Decoder.Restores` says so of one type, and passes
from the parts to lists, to optional values and to structures (`Record.restores`). Together
with the reader it gives `Json.Faithful`: decoding the text undoes encoding, so two values
never share a text (`Json.all_faithful`). -/
namespace FactoryGen

/-- A decoder gives every value back that was made into a document without numbers. -/
structure Decoder.Restores {α : Type} (decoder : Decoder α) (toJson : α → Json) : Prop where
  numberFree : ∀ value, (toJson value).isNumberFree = true
  decodes : ∀ value, decoder Json.dialect (.ofJson (toJson value)) = .ok value

namespace Document

theorem ofItems_eq_map (items : List Json) : ofItems items = items.map ofJson := by
  induction items with
  | nil => rfl
  | cons item items ih => rw [ofItems, ih, List.map_cons]

theorem ofMembers_eq_map (members : List (String × Json)) :
    ofMembers members = members.map fun member => (some member.1, ofJson member.2) := by
  induction members with
  | nil => rfl
  | cons member members ih => rw [ofMembers, ih, List.map_cons]

end Document

namespace Json

theorem areNumberFree_iff {items : List Json} :
    areNumberFree items = true ↔ ∀ item ∈ items, item.isNumberFree = true := by
  induction items with
  | nil => simp [areNumberFree]
  | cons item items ih => simp [areNumberFree, ih]

theorem hasNumberFree_iff {members : List (String × Json)} :
    hasNumberFree members = true ↔ ∀ member ∈ members, member.2.isNumberFree = true := by
  induction members with
  | nil => simp [hasNumberFree]
  | cons member members ih => simp [hasNumberFree, ih]

end Json

namespace Decoder
variable {α : Type} {decoder : Decoder α} {toJson : α → Json}

theorem text_restores : text.Restores Json.text := ⟨fun _ => rfl, fun _ => rfl⟩

theorem bool_restores : bool.Restores Json.bool := ⟨fun _ => rfl, fun _ => rfl⟩

theorem Restores.list (h : decoder.Restores toJson) :
    decoder.list.Restores fun values => .list (values.map toJson) where
  numberFree values := by
    show Json.areNumberFree (values.map toJson) = true
    simp [Json.areNumberFree_iff, h.numberFree]
  decodes values := by
    show items decoder Json.dialect (Document.ofItems (values.map toJson)) = .ok values
    induction values with
    | nil => rfl
    | cons value values ih =>
      rw [List.map_cons, Document.ofItems, items, h.decodes, ih]
      rfl

/-- Null stands for nothing, as long as it stands for no value. -/
theorem Restores.optional (h : decoder.Restores toJson) {toJson? : Option α → Json}
    (hnone : toJson? none = .null) (hsome : ∀ value, toJson? (some value) = toJson value)
    (hvalue : ∀ value, toJson value ≠ .null) : decoder.optional.Restores toJson? where
  numberFree value := by
    cases value with
    | none => rw [hnone]; rfl
    | some value => rw [hsome, h.numberFree]
  decodes value := by
    cases value with
    | none => rw [hnone]; rfl
    | some value =>
      have hdecodes := h.decodes value
      have hnull := hvalue value
      rw [hsome]
      generalize toJson value = json at hdecodes hnull
      cases json with
      | null => exact absurd rfl hnull
      | _ => exact congrArg (Except.map some) hdecodes

end Decoder

namespace Record

/-- Parts that fields give back, in order, make one value out of another. -/
inductive Makes {α : Type} : List (Field α) → List Json → α → α → Prop where
  | nil (value : α) : Makes [] [] value value
  | cons {β : Type} {name : String} {required : Bool} {decoder : Decoder β}
      {update : β → α → α} {toJson : β → Json} {fields : List (Field α)} {parts : List Json}
      {value result : α} (hpart : decoder.Restores toJson) (part : β)
      (hrest : Makes fields parts (update part value) result) :
      Makes (.of name required decoder update :: fields) (toJson part :: parts) value result

variable {α : Type} {fields : List (Field α)} {parts : List Json} {value result : α}

theorem Makes.length_eq (h : Makes fields parts value result) : parts.length = fields.length := by
  induction h with
  | nil _ => rfl
  | cons _ _ _ ih => simp [ih]

theorem Makes.numberFree (h : Makes fields parts value result) :
    ∀ part ∈ parts, part.isNumberFree = true := by
  induction h with
  | nil _ => simp
  | cons hpart part _ ih => simpa [hpart.numberFree] using ih

theorem Makes.ofItems_eq (record : Record α) (h : Makes fields parts value result) (index : Nat) :
    record.ofItems Json.dialect fields index (Document.ofItems parts) value = .ok result := by
  induction h generalizing index with
  | nil _ => rfl
  | cons hpart part _ ih =>
    rw [Document.ofItems, ofItems_cons_iff]
    exact ⟨_, Field.of_store_eq_ok_iff.2 ⟨part, hpart.decodes part, rfl⟩, ih (index + 1)⟩

/-- A structure comes back from its parts under the names of its fields. -/
theorem restores (record : Record α) (parts : α → List Json)
    (hnames : (record.fields.map (·.name)).Nodup)
    (hparts : ∀ value, Makes record.fields (parts value) record.blank value) :
    record.decoder.Restores fun value =>
      .object ((record.fields.map (·.name)).zip (parts value)) where
  numberFree value :=
    Json.hasNumberFree_iff.2 fun _ hmember =>
      (hparts value).numberFree _ (List.of_mem_zip hmember).2
  decodes value := by
    have hentries : Document.ofMembers ((record.fields.map (·.name)).zip (parts value)) =
        entriesOf record.fields (Document.ofItems (parts value)) := by
      rw [Document.ofMembers_eq_map, Document.ofItems_eq_map, entriesOf, List.zip,
        List.map_zipWith, List.zipWith_map_left, List.zipWith_map_right]
    rw [Document.ofJson, hentries, decoder_entriesOf_iff hnames]
    · exact (hparts value).ofItems_eq record 0
    · simp [Document.ofItems_eq_map, (hparts value).length_eq]

end Record

/-! ### The types -/

open Decoder (text_restores bool_restores)
open Record (Makes)

theorem SymbolKind.restores : SymbolKind.decoder.Restores fun kind => .text kind.name :=
  ⟨fun _ => rfl, fun kind => by cases kind <;> rfl⟩

theorem CreateStrategy.restores :
    CreateStrategy.decoder.Restores fun strategy => .text strategy.name :=
  ⟨fun _ => rfl, fun strategy => by cases strategy <;> rfl⟩

theorem Severity.restores : Severity.decoder.Restores fun severity => .text severity.name :=
  ⟨fun _ => rfl, fun severity => by cases severity <;> rfl⟩

theorem Topic.restores : Topic.decoder.Restores fun topic => .text topic.name :=
  ⟨fun _ => rfl, fun topic => by cases topic <;> rfl⟩

theorem Parameter.restores : Parameter.record.decoder.Restores Parameter.toJson :=
  Parameter.record.restores (fun parameter => [.text parameter.name, .text parameter.type])
    (by decide) fun parameter =>
      .cons text_restores parameter.name <| .cons text_restores parameter.type <| .nil _

theorem Shape.restores : Shape.record.decoder.Restores Shape.toJson :=
  Shape.record.restores
    (fun shape => [.text shape.className, .text shape.package, .text shape.supertype,
      .list (shape.parameters.map Parameter.toJson)])
    (by decide) fun shape =>
      .cons text_restores shape.className <| .cons text_restores shape.package <|
      .cons text_restores shape.supertype <|
      .cons Parameter.restores.list shape.parameters <| .nil _

theorem Settings.restores : Settings.record.decoder.Restores Settings.toJson :=
  Settings.record.restores
    (fun settings => [.text settings.baseType, .text settings.factoryInterface,
      .text settings.marker, .text settings.strategy.name])
    (by decide) fun settings =>
      .cons text_restores settings.baseType <| .cons text_restores settings.factoryInterface <|
      .cons text_restores settings.marker <|
      .cons CreateStrategy.restores settings.strategy <| .nil _

theorem Symbol.restores : Symbol.record.decoder.Restores Symbol.toJson := by
  have hsupertype : Decoder.text.optional.Restores Json.ofText? :=
    text_restores.optional rfl (fun _ => rfl) fun _ h => Json.noConfusion h
  have hparameters : Parameter.record.decoder.list.optional.Restores fun parameters? =>
      parameters?.elim .null fun parameters => .list (parameters.map Parameter.toJson) :=
    Parameter.restores.list.optional rfl (fun _ => rfl) fun _ h => Json.noConfusion h
  have hrestores := Symbol.record.restores
    (fun symbol => [.text symbol.name, .text symbol.package, .text symbol.kind.name,
      .ofText? symbol.supertype,
      symbol.parameters.elim .null fun parameters => .list (parameters.map Parameter.toJson)])
    (by decide) fun symbol =>
      .cons text_restores symbol.name <| .cons text_restores symbol.package <|
      .cons SymbolKind.restores symbol.kind <| .cons hsupertype symbol.supertype <|
      .cons hparameters symbol.parameters <| .nil _
  refine Eq.mp (congrArg _ (funext fun symbol => ?_)) hrestores
  rw [Symbol.toJson]
  cases symbol.parameters <;> rfl

theorem Manifest.restores : Manifest.record.decoder.Restores Manifest.toJson :=
  Manifest.record.restores
    (fun manifest => [manifest.settings.toJson, .list (manifest.symbols.map Symbol.toJson)])
    (by decide) fun manifest =>
      .cons Settings.restores manifest.settings <|
      .cons Symbol.restores.list manifest.symbols <| .nil _

theorem Diagnostic.restores : Diagnostic.record.decoder.Restores Diagnostic.toJson :=
  Diagnostic.record.restores
    (fun diagnostic => [.text diagnostic.severity.name, .text diagnostic.topic.name,
      .text diagnostic.symbol, .text diagnostic.message])
    (by decide) fun diagnostic =>
      .cons Severity.restores diagnostic.severity <| .cons Topic.restores diagnostic.topic <|
      .cons text_restores diagnostic.symbol <| .cons text_restores diagnostic.message <| .nil _

theorem SourceFile.restores : SourceFile.record.decoder.Restores SourceFile.toJson :=
  SourceFile.record.restores
    (fun file => [.text file.name, .text file.package, .text file.text])
    (by decide) fun file =>
      .cons text_restores file.name <| .cons text_restores file.package <|
      .cons text_restores file.text <| .nil _

theorem Factory.Parameter.restores :
    Factory.Parameter.record.decoder.Restores Factory.Parameter.toJson :=
  Factory.Parameter.record.restores
    (fun parameter => [.text parameter.name, .text parameter.type])
    (by decide) fun parameter =>
      .cons text_restores parameter.name <| .cons text_restores parameter.type <| .nil _

theorem Factory.restores : Factory.record.decoder.Restores Factory.toJson :=
  Factory.record.restores
    (fun factory => [.text factory.marker, .text factory.package, .text factory.name,
      .text factory.className, .text factory.interface, .text factory.baseType,
      .list (factory.parameters.map Factory.Parameter.toJson), .bool factory.checked])
    (by decide) fun factory =>
      .cons text_restores factory.marker <| .cons text_restores factory.package <|
      .cons text_restores factory.name <| .cons text_restores factory.className <|
      .cons text_restores factory.interface <| .cons text_restores factory.baseType <|
      .cons Factory.Parameter.restores.list factory.parameters <|
      .cons bool_restores factory.checked <| .nil _

/-! ### Texts -/

namespace Json
variable {α : Type} {decoder : Decoder α} {toJson : α → Json}

/-- Every value comes back from its text, and no two values have one text. -/
structure Faithful (toJson : α → Json) (decoder : Decoder α) : Prop where
  decodes : ∀ value, decode decoder (toJson value).compact = .ok value
  injective : ∀ value other, (toJson value).compact = (toJson other).compact → value = other

end Json

theorem Decoder.Restores.faithful {α : Type} {decoder : Decoder α} {toJson : α → Json}
    (h : decoder.Restores toJson) : Json.Faithful toJson decoder := by
  have hdecodes : ∀ value, Json.decode decoder (toJson value).compact = .ok value := by
    intro value
    rw [Json.decode_compact decoder (h.numberFree value), h.decodes]
  refine ⟨hdecodes, fun value other htext => ?_⟩
  have hsame := hdecodes value
  rw [htext, hdecodes] at hsame
  exact (Except.ok.inj hsame).symm

/-- **Decoding undoes encoding**, for everything that is written: a value comes back from its
text, and only values that are the same have the same text. So a constructor that is missing,
one that takes nothing and one that takes something are told apart, and so are a supertype
that is missing and an empty one. A manifest also has to have settings that can be used. -/
theorem Json.all_faithful :
    Faithful Symbol.toJson Symbol.record.decoder ∧
    Faithful Parameter.toJson Parameter.record.decoder ∧
    Faithful Shape.toJson Shape.record.decoder ∧
    Faithful Settings.toJson Settings.record.decoder ∧
    Faithful Manifest.toJson Manifest.record.decoder ∧
    Faithful Diagnostic.toJson Diagnostic.record.decoder ∧
    Faithful SourceFile.toJson SourceFile.record.decoder ∧
    Faithful Factory.toJson Factory.record.decoder ∧
    Faithful Factory.Parameter.toJson Factory.Parameter.record.decoder ∧
    (∀ (symbol : Symbol) (parameter : Parameter) (rest : List Parameter),
      let missing := { symbol with parameters := none }.toJson.compact
      let empty := { symbol with parameters := some [] }.toJson.compact
      let filled := { symbol with parameters := some (parameter :: rest) }.toJson.compact
      missing ≠ empty ∧ missing ≠ filled ∧ empty ≠ filled) ∧
    (∀ symbol : Symbol, { symbol with supertype := none }.toJson.compact ≠
      { symbol with supertype := some "" }.toJson.compact) ∧
    ∀ manifest : Manifest,
      (Manifest.read .json manifest.toJson.compact = .ok manifest ↔
        manifest.settings.check = .ok ()) ∧
      ((∃ detail, Manifest.read .json manifest.toJson.compact = .error (.configuration detail)) ↔
        manifest.settings.check ≠ .ok ()) := by
  have hsymbol := Symbol.restores.faithful
  refine ⟨hsymbol, Parameter.restores.faithful, Shape.restores.faithful, Settings.restores.faithful,
    Manifest.restores.faithful, Diagnostic.restores.faithful, SourceFile.restores.faithful,
    Factory.restores.faithful, Factory.Parameter.restores.faithful, ?_, ?_, ?_⟩
  · intro symbol parameter rest missing empty filled
    refine ⟨fun h => ?_, fun h => ?_, fun h => ?_⟩
    · cases congrArg Symbol.parameters (hsymbol.injective _ _ h)
    · cases congrArg Symbol.parameters (hsymbol.injective _ _ h)
    · cases congrArg Symbol.parameters (hsymbol.injective _ _ h)
  · intro symbol h
    cases congrArg Symbol.supertype (hsymbol.injective _ _ h)
  · intro manifest
    have hread : Manifest.read .json manifest.toJson.compact =
        manifest.settings.check.map fun _ => manifest := by
      rw [Manifest.read, Manifest.Format.decode, Manifest.restores.faithful.decodes]
    rw [hread, Settings.check]
    cases manifest.settings.defect? <;> simp [Except.map]

example :
    (Symbol.toJson { name := "A", kind := .enumClass, parameters := some [⟨"x", "T?"⟩] }).compact =
      "\x7b\"name\":\"A\",\"package\":\"\",\"kind\":\"enum\",\"supertype\":null," ++
        "\"constructor\":[\x7b\"name\":\"x\",\"type\":\"T?\"\x7d]\x7d" := by
  decide +kernel

end FactoryGen

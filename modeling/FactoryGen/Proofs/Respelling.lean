import FactoryGen.Proofs.Compact
import FactoryGen.Proofs.Portable

/-! Manifests written in another way.

A structure can be written with its entries in another order, with entries that nobody asks
for, without those that say what would be taken anyway, and, as far as its first fields go,
as a list of values. `Record.Respells` relates documents that differ in such ways, here or in
the parts that are structures themselves; decoders of portable structures cannot tell them
apart (`Record.IsRegular.respects`). So a manifest in JSON means in TOML what it means in
JSON, however it is written there (`Manifest.same_in_every_format`). What is not a matter of
writing is whether a symbol has a constructor (`Symbol.parameters_iff`). -/
namespace FactoryGen

open Manifest (Format)

/-- Lists that differ in one item. -/
inductive Document.InItem (relation : Document → Document → Prop) : Document → Document → Prop where
  | mk {document other : Document} (h : relation document other) (front back : List Document) :
      InItem relation (.list (front ++ document :: back)) (.list (front ++ other :: back))

/-- Documents that write the same structure in different ways. A relation says, for each name
of a field, which documents write the same value of it. -/
inductive Record.Respells {α : Type} (record : Record α)
    (parts : String → Document → Document → Prop) : Document → Document → Prop where
  /-- Entries come in another order, here or further inside. -/
  | order {document other : Document} (h : document.Reordered other) :
      Respells record parts document other
  /-- An entry that no field asks for is left out. -/
  | unknown {name : String} {document : Document} (hname : record.field? name = none)
      (hwhole : document.whole = true) (rest : List (Option String × Document)) :
      Respells record parts (.table ((some name, document) :: rest)) (.table rest)
  /-- An entry that says what would be taken anyway is left out. -/
  | default {name : String} {field : Field α} {document : Document}
      {rest : List (Option String × Document)} (hname : record.field? name = some field)
      (hrequired : field.required = false) (hplain : document.IsPlain)
      (hvalue : field.store Json.dialect document record.blank = .ok record.blank)
      (hfresh : some name ∉ rest.map (·.1)) :
      Respells record parts (.table ((some name, document) :: rest)) (.table rest)
  /-- The value of a field is written in another way in its entry. -/
  | entry {name : String} {field : Field α} {document other : Document}
      (hname : record.field? name = some field) (h : parts name document other)
      (front back : List (Option String × Document)) :
      Respells record parts (.table (front ++ (some name, document) :: back))
        (.table (front ++ (some name, other) :: back))
  /-- The value of a field is written in another way in the list of values. -/
  | item {field : Field α} {document other : Document} {front : List Document}
      (hfield : record.fields[front.length]? = some field) (h : parts field.name document other)
      (back : List Document) :
      Respells record parts (.list (front ++ document :: back)) (.list (front ++ other :: back))
  /-- The first fields in order are written as the list of their values. -/
  | listed (documents : List Document) (hlength : documents.length ≤ record.fields.length) :
      Respells record parts (.table (Record.entriesOf record.fields documents)) (.list documents)
  | symm {document other : Document} (h : Respells record parts document other) :
      Respells record parts other document
  | trans {first second third : Document} (h : Respells record parts first second)
      (h' : Respells record parts second third) : Respells record parts first third

namespace Decoder
variable {α : Type} {decoder : Decoder α} {relation : Document → Document → Prop}

theorem Respects.list (h : decoder.Respects relation) :
    decoder.list.Respects (Document.InItem relation) := by
  intro format document other hitem values
  obtain ⟨hrelated, front, back⟩ := hitem
  have hpart := fun value => h format hrelated value
  exact ⟨items_replace fun value => (hpart value).1, items_replace fun value => (hpart value).2⟩

theorem Respects.optional (h : decoder.Respects relation)
    (hnull : ∀ document other, relation document other → document ≠ .null ∧ other ≠ .null) :
    decoder.optional.Respects relation := by
  intro format document other hrelated value
  have ⟨hdocument, hother⟩ := hnull document other hrelated
  simp [optional_eq_ok_iff, hdocument, hother, h format hrelated]

end Decoder

namespace Record
variable {α : Type} {record : Record α} {parts : String → Document → Document → Prop}

/-- **No format can tell documents apart that write the same structure in different ways.** -/
theorem IsRegular.respects (hregular : record.IsRegular)
    (hfields : ∀ field ∈ record.fields, field.IsPortable)
    (hparts : ∀ field ∈ record.fields, field.Respects (parts field.name)) :
    record.decoder.Respects (record.Respells parts) := by
  intro format document other h value
  induction h with
  | order h => exact (portable hregular hfields).order format h value
  | unknown hname hwhole rest =>
    simp only [decoder, ← fills_iff, fills_unknown_iff hname hwhole]
  | @default name field document rest hname hrequired hplain hvalue hfresh =>
    obtain ⟨hfield, rfl⟩ := mem_of_field? hname
    have hstore : field.store format.dialect document record.blank = .ok record.blank := by
      cases format with
      | json => exact hvalue
      | toml => exact (hfields field hfield).agrees hplain _ _ hvalue
    simp only [decoder, ← fills_iff]
    exact fills_default_iff hregular.names hfield hrequired hstore hfresh List.not_mem_nil
  | @entry name field document other hname h front back =>
    obtain ⟨hfield, rfl⟩ := mem_of_field? hname
    have hsame := fun value result => hparts field hfield format h value result
    simp only [decoder, ← fills_iff]
    exact ⟨Fills.replace_value hname fun value result => (hsame value result).1,
      Fills.replace_value hname fun value result => (hsame value result).2⟩
  | @item field document other front hfield h back =>
    have hsame := fun value result =>
      hparts field (List.mem_of_getElem? hfield) format h value result
    exact ⟨ofItems_replace_value hfield fun value result => (hsame value result).1,
      ofItems_replace_value hfield fun value result => (hsame value result).2⟩
  | listed _ hlength => exact decoder_entriesOf_iff hregular.names hlength
  | symm _ ih => exact ih.symm
  | trans _ _ ih ih' => exact ih.trans ih'

end Record

/-! ### Manifests and what they are made of -/

theorem Field.of_commutes {α β γ : Type} {name other : String} {required required' : Bool}
    {decoder : Decoder β} {decoder' : Decoder γ} {update : β → α → α} {update' : γ → α → α}
    (h : ∀ part part' value,
      update' part' (update part value) = update part (update' part' value)) :
    (Field.of name required decoder update).Commutes
      (Field.of other required' decoder' update') := by
  intro dialect document document' value next result hstore hstore'
  obtain ⟨part, hpart, rfl⟩ := Field.of_store_eq_ok_iff.1 hstore
  obtain ⟨part', hpart', rfl⟩ := Field.of_store_eq_ok_iff.1 hstore'
  exact ⟨update' part' value, Field.of_store_eq_ok_iff.2 ⟨part', hpart', rfl⟩,
    Field.of_store_eq_ok_iff.2 ⟨part, hpart, (h part part' value).symm⟩⟩

@[simp] theorem Field.of_name {α β : Type} (name : String) (required : Bool) (decoder : Decoder β)
    (update : β → α → α) : (Field.of name required decoder update).name = name := rfl

theorem Parameter.regular : Parameter.record.IsRegular :=
  ⟨by decide, by simp [Parameter.record, Field.of_commutes]⟩

theorem Symbol.regular : Symbol.record.IsRegular :=
  ⟨by decide, by simp [Symbol.record, Field.of_commutes]⟩

theorem Settings.regular : Settings.record.IsRegular :=
  ⟨by decide, by simp [Settings.record, Field.of_commutes]⟩

theorem Manifest.regular : Manifest.record.IsRegular :=
  ⟨by decide, by simp [Manifest.record, Field.of_commutes]⟩

theorem Field.respects_false {α : Type} (field : Field α) : field.Respects fun _ _ => False :=
  fun _ _ _ h => h.elim

/-- Documents that write the same parameter. -/
def Parameter.Respells : Document → Document → Prop :=
  Parameter.record.Respells fun _ _ _ => False

/-- Documents that write the same symbol, maybe with parameters written in another way. -/
def Symbol.Respells : Document → Document → Prop :=
  Symbol.record.Respells fun name document other =>
    name = "constructor" ∧ document.InItem Parameter.Respells other

/-- Documents that write the same settings. -/
def Settings.Respells : Document → Document → Prop :=
  Settings.record.Respells fun _ _ _ => False

/-- Documents that write the same manifest, maybe with settings or symbols written in another
way. -/
def Manifest.Respells : Document → Document → Prop :=
  Manifest.record.Respells fun name document other =>
    name = "settings" ∧ Settings.Respells document other ∨
    name = "symbols" ∧ document.InItem Symbol.Respells other

open Decoder (text_portable variant_portable)

theorem Parameter.fields_portable : ∀ field ∈ Parameter.record.fields, field.IsPortable := by
  simp [Parameter.record, text_portable.field]

theorem Parameter.portable : Parameter.record.decoder.IsPortable :=
  Record.portable regular fields_portable

theorem Parameter.respects : Parameter.record.decoder.Respects Parameter.Respells :=
  regular.respects fields_portable fun field _ => field.respects_false

theorem Symbol.fields_portable : ∀ field ∈ Symbol.record.fields, field.IsPortable := by
  simp [Symbol.record, text_portable.field, text_portable.optional.field, SymbolKind.decoder,
    (variant_portable _).field, Parameter.portable.list.optional.field]

theorem Symbol.portable : Symbol.record.decoder.IsPortable :=
  Record.portable regular fields_portable

theorem Symbol.respects : Symbol.record.decoder.Respects Symbol.Respells := by
  have hparameters : Parameter.record.decoder.list.optional.Respects
      (Document.InItem Parameter.Respells) := by
    refine Parameter.respects.list.optional fun document other h => ?_
    cases h
    exact ⟨fun h => Document.noConfusion h, fun h => Document.noConfusion h⟩
  refine regular.respects fields_portable ?_
  simp [Symbol.record, Field.respects_false, hparameters.field]

theorem Settings.fields_portable : ∀ field ∈ Settings.record.fields, field.IsPortable := by
  simp [Settings.record, text_portable.field, CreateStrategy.decoder, (variant_portable _).field]

theorem Settings.portable : Settings.record.decoder.IsPortable :=
  Record.portable regular fields_portable

theorem Settings.respects : Settings.record.decoder.Respects Settings.Respells :=
  regular.respects fields_portable fun field _ => field.respects_false

theorem Manifest.fields_portable : ∀ field ∈ Manifest.record.fields, field.IsPortable := by
  simp [Manifest.record, Settings.portable.field, Symbol.portable.list.field]

theorem Manifest.portable : Manifest.record.decoder.IsPortable :=
  Record.portable regular fields_portable

theorem Manifest.respects : Manifest.record.decoder.Respects Manifest.Respells := by
  refine regular.respects fields_portable ?_
  simp [Manifest.record, Settings.respects.field, Symbol.respects.list.field]

/-! ### Constructors -/

/-- The document of a symbol's constructor, if there is one. -/
def Symbol.constructor? : Document → Option Document
  | .table entries => (entries.find? fun entry => entry.1 == some "constructor").map (·.2)
  | .list items => items[4]?
  | _ => none

theorem Symbol.keeps_parameters {field : Field Symbol} (hfield : field ∈ Symbol.record.fields)
    (hname : field.name ≠ "constructor") (dialect : Dialect) (P : Option (List Parameter) → Prop) :
    field.Keeps dialect fun symbol => P symbol.parameters := by
  intro document symbol next hsymbol hstore
  simp only [Symbol.record, List.mem_cons, List.not_mem_nil, or_false] at hfield
  rcases hfield with rfl | rfl | rfl | rfl | rfl
  case inr.inr.inr.inr => exact absurd rfl hname
  all_goals
    obtain ⟨part, _, rfl⟩ := Field.of_store_eq_ok_iff.1 hstore
    exact hsymbol

/-- The field of a symbol that its constructor is stored in. -/
def Symbol.constructorField : Field Symbol :=
  .of "constructor" false Parameter.record.decoder.list.optional
    fun parameters symbol => { symbol with parameters }

theorem Symbol.store_constructor {dialect : Dialect} {document : Document} {symbol next : Symbol}
    (h : constructorField.store dialect document symbol = .ok next) :
    Parameter.record.decoder.list.optional dialect document = .ok next.parameters := by
  obtain ⟨parameters, hparameters, rfl⟩ := Field.of_store_eq_ok_iff.1 h
  exact hparameters

theorem Symbol.fields_eq :
    Symbol.record.fields = Symbol.record.fields.take 4 ++ constructorField :: [] := rfl

theorem Symbol.take_fields {field : Field Symbol} (h : field ∈ Symbol.record.fields.take 4) :
    field.name ≠ "constructor" := by
  revert field
  simp [Symbol.record]

/-- The parameters of a symbol come from the document of its constructor alone. -/
theorem Symbol.parameters_of_decoder {document : Document} (hplain : document.IsPlain)
    {dialect : Dialect} {symbol : Symbol}
    (h : Symbol.record.decoder dialect document = .ok symbol) :
    (constructor? document = none → symbol.parameters = none) ∧
    ∀ part, constructor? document = some part →
      Parameter.record.decoder.list.optional dialect part = .ok symbol.parameters := by
  cases hplain with
  | text _ => cases h
  | @list items _ =>
    refine ⟨fun hnone => ?_, fun part hsome => ?_⟩
    · -- Four items or less leave the fifth field alone.
      refine Record.ofItems_preserves (fun symbol => symbol.parameters = none) h ?_ rfl
      intro field hmem
      have hfour := List.take_subset_take_left _ (List.getElem?_eq_none_iff.1 hnone) hmem
      exact keeps_parameters (List.mem_of_mem_take hmem) (take_fields hfour) dialect (· = none)
    · exact Record.ofItems_stores
        (fun symbol => Parameter.record.decoder.list.optional dialect part = .ok symbol.parameters)
        h fields_eq hsome (fun _ _ => store_constructor) fun _ hmem => nomatch hmem
  | @table entries _ hkeys _ =>
    have hfills := Record.fills_iff.2 h
    refine ⟨fun hnone => ?_, fun part hsome => ?_⟩
    · refine hfills.preserves (fun symbol => symbol.parameters = none) ?_ rfl
      intro field hmem hkey
      refine keeps_parameters hmem (fun hname => ?_) dialect (· = none)
      obtain ⟨entry, hentry, hsame⟩ := List.mem_map.1 hkey
      have hmissing := List.find?_eq_none.1 (Option.map_eq_none_iff.1 hnone) entry hentry
      simp [hsame, hname] at hmissing
    · obtain ⟨⟨key, document⟩, hfind, rfl⟩ := Option.map_eq_some_iff.1 hsome
      obtain rfl : key = some "constructor" := by simpa using List.find?_some hfind
      have hfield : Symbol.record.field? "constructor" = some constructorField := rfl
      exact hfills.stores
        (fun symbol => Parameter.record.decoder.list.optional dialect document =
          .ok symbol.parameters)
        hkeys hfield (List.mem_of_find?_eq_some hfind) (fun _ _ => store_constructor)
        fun other hother hname => keeps_parameters hother hname dialect (_ = Except.ok ·)

theorem Symbol.constructor?_plain {document part : Document} (hplain : document.IsPlain)
    (h : constructor? document = some part) : part.IsPlain := by
  cases hplain with
  | text _ => cases h
  | list hitems => exact hitems part (List.mem_of_getElem? h)
  | table _ _ hentries =>
    obtain ⟨entry, hfind, rfl⟩ := Option.map_eq_some_iff.1 h
    exact hentries entry (List.mem_of_find?_eq_some hfind)

/-- **A symbol without a constructor is told apart from one whose constructor takes nothing.** -/
theorem Symbol.parameters_iff {document : Document} (hplain : document.IsPlain)
    {dialect : Dialect} {symbol : Symbol}
    (h : Symbol.record.decoder dialect document = .ok symbol) :
    (symbol.parameters = none ↔ constructor? document = none) ∧
    (symbol.parameters = some [] ↔ constructor? document = some (.list [])) := by
  obtain ⟨hnone, hsome⟩ := parameters_of_decoder hplain h
  cases hpart : constructor? document with
  | none => simp [hnone hpart]
  | some part =>
    have hpartPlain := constructor?_plain hplain hpart
    rcases Decoder.optional_eq_ok_iff.1 (hsome part hpart) with ⟨rfl, _⟩ | ⟨_, values, hvalues, heq⟩
    · cases hpartPlain
    · obtain ⟨parts, rfl, hparts⟩ := Decoder.list_eq_ok_iff.1 hvalues
      simp [heq, Decoder.items_nil_iff hparts]

theorem Manifest.read_of_tree? {format : Format} {text : String} {tree : Document}
    (htree : format.tree? text = some tree) (manifest : Manifest) :
    Manifest.read format text = .ok manifest ↔
      record.decoder format.dialect tree = .ok manifest ∧ manifest.settings.check = .ok () := by
  rw [Manifest.read, Format.decode_of_tree? htree]
  cases record.decoder format.dialect tree with
  | error mismatch => simp
  | ok found =>
    simp only [Except.ok.injEq]
    constructor
    · intro h
      cases hcheck : found.settings.check with
      | error problem =>
        rw [hcheck] at h
        cases h
      | ok =>
        rw [hcheck] at h
        cases h
        exact ⟨rfl, hcheck⟩
    · rintro ⟨rfl, hcheck⟩
      rw [hcheck]
      rfl

theorem Manifest.Format.tree?_compact {value : Json} (hfree : value.isNumberFree = true) :
    Format.json.tree? value.compact = some (.ofJson value) := by
  simp [tree?, Json.read_compact hfree]

/-- The tree of a text is known if its value has the text of another one. -/
theorem Manifest.Format.tree?_of_compact {format : Format} {text : String} {value : Json}
    (hfree : value.isNumberFree = true)
    (h : ((format.tree? text).bind Document.value?).any (fun found =>
      found.isNumberFree && found.compact == value.compact) = true) :
    format.tree? text = some (.ofJson value) := by
  obtain ⟨found, hfound, hsame⟩ := (Option.any_eq_true ..).1 h
  obtain ⟨tree, htree, hvalue⟩ := Option.bind_eq_some_iff.1 hfound
  obtain ⟨hnumbers, htexts⟩ := Bool.and_eq_true_iff.1 hsame
  rw [htree, Document.eq_ofJson_of_value? hvalue,
    Json.ofJson_inj_of_compact hnumbers hfree (beq_iff_eq.1 htexts)]

/-- **JSON and TOML manifests mean the same.** What JSON says with tables, lists and texts,
TOML says as well. In either format it makes no difference in which order entries come, whether
there are some that nobody asks for, and whether those that say what would be taken anyway are
there. So a text that says in TOML what another one says in JSON gives the same manifest. A
constructor that is missing is not an empty one. -/
theorem Manifest.same_in_every_format {tree other : Document} (hplain : tree.IsPlain)
    (hsame : Manifest.Respells tree other) :
    (∀ manifest : Manifest, record.decoder Json.dialect tree = .ok manifest →
      record.decoder Toml.dialect tree = .ok manifest) ∧
    (∀ (format : Format) (manifest : Manifest),
      record.decoder format.dialect tree = .ok manifest ↔
        record.decoder format.dialect other = .ok manifest) ∧
    (∀ (format : Format) (text text' : String) (manifest : Manifest),
      Format.json.tree? text = some tree → format.tree? text' = some other →
      Manifest.read .json text = .ok manifest → Manifest.read format text' = .ok manifest) ∧
    (∀ (format : Format) (document : Document) (symbol : Symbol), document.IsPlain →
      Symbol.record.decoder format.dialect document = .ok symbol →
      (symbol.parameters = none ↔ Symbol.constructor? document = none) ∧
      (symbol.parameters = some [] ↔ Symbol.constructor? document = some (.list []))) := by
  have hagrees := portable.agrees hplain
  refine ⟨hagrees, fun format => respects format hsame, ?_, ?_⟩
  · intro format text text' manifest htext htext' hread
    obtain ⟨hdecode, hcheck⟩ := (read_of_tree? htext manifest).1 hread
    refine (read_of_tree? htext' manifest).2 ⟨(respects format hsame manifest).1 ?_, hcheck⟩
    cases format with
    | json => exact hdecode
    | toml => exact hagrees manifest hdecode
  · exact fun format document symbol hplain h => Symbol.parameters_iff hplain h

theorem Manifest.same_in_every_format_of_respelled :
    ∃ (json toml : String) (tree other : Document) (manifest : Manifest),
      json = "\x7b\"note\":[],\"settings\":\x7b\"create_strategy\":\"unchecked\"\x7d," ++
        "\"symbols\":[\x7b\"package\":\"\",\"name\":\"A\",\"constructor\":[]\x7d,[\"B\"]]\x7d" ∧
      toml = "[[symbols]]\nconstructor = []\nname = \"A\"\n[[symbols]]\nname = \"B\"\n" ∧
      Format.json.tree? json = some tree ∧ Format.toml.tree? toml = some other ∧
      tree.IsPlain ∧ Manifest.Respells tree other ∧
      Manifest.read .json json = .ok manifest ∧ Manifest.read .toml toml = .ok manifest ∧
      manifest = ⟨{}, [{ name := "A", parameters := some [] }, { name := "B" }]⟩ := by
  let value : Json := .object [("note", .list []),
    ("settings", .object [("create_strategy", .text "unchecked")]),
    ("symbols", .list [
      .object [("package", .text ""), ("name", .text "A"), ("constructor", .list [])],
      .list [.text "B"]])]
  refine ⟨value.compact, _, .ofJson value,
    .ofJson (.object [("symbols", .list [
      .object [("constructor", .list []), ("name", .text "A")],
      .object [("name", .text "B")]])]),
    ⟨{}, [{ name := "A", parameters := some [] }, { name := "B" }]⟩,
    ?text, rfl, ?json, ?toml, ?plain, ?same, (read_of_tree? ?json _).2 ⟨rfl, rfl⟩,
    (same_in_every_format ?plain ?same).2.2.1 .toml _ _ _ ?json ?toml
      ((read_of_tree? ?json _).2 ⟨rfl, rfl⟩), rfl⟩
  case text => decide +kernel
  case json => exact Format.tree?_compact rfl
  case toml => exact Format.tree?_of_compact rfl (by decide +kernel)
  case plain =>
    repeat' first
      | exact .text _
      | refine .list ?_
      | refine .table (by decide) (by decide) ?_
      | refine List.forall_mem_cons.2 ⟨?_, ?_⟩
      | exact fun _ h => nomatch h
  case same =>
    have hfirst : Symbol.Respells
        (.table [(some "package", .text (some "")), (some "name", .text (some "A")),
          (some "constructor", .list [])])
        (.table [(some "constructor", .list []), (some "name", .text (some "A"))]) :=
      .trans (.default rfl rfl (.text _) rfl (by decide))
        (.order (.table (by decide) (.swap _ _ _)))
    have hsecond : Symbol.Respells (.list [.text (some "B")])
        (.table [(some "name", .text (some "B"))]) :=
      .symm (.listed [.text (some "B")] (by decide))
    have hsettings : Document.IsPlain
        (.table [(some "create_strategy", .text (some "unchecked"))]) :=
      .table (by decide) (by decide) (List.forall_mem_cons.2 ⟨.text _, fun _ h => nomatch h⟩)
    refine .trans (.unknown rfl rfl _) (.trans (.default rfl rfl hsettings rfl (by decide)) ?_)
    refine .trans (.entry rfl (.inr ⟨rfl, .mk hfirst [] _⟩) [] []) ?_
    exact .entry rfl (.inr ⟨rfl, .mk hsecond [_] []⟩) [] []

end FactoryGen

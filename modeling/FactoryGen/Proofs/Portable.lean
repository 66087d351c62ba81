import FactoryGen.Manifest
import FactoryGen.Proofs.Records

/-! What the formats of manifests agree on.

A reader of JSON keeps the entries of a table as they come, a reader of TOML sorts them, so
that the same data may be two documents (`Document.Reordered`). The formats also differ in
how strict they are, about lists that are too long and about names of variants. A decoder is
portable if it makes nothing of the order of entries and if TOML takes whatever JSON takes,
as long as the document is of the plain sort that can be written in both. Decoders of texts
and variants are portable, and lists, optional values and structures of portable parts are
portable as well (`Record.portable`). -/
namespace FactoryGen

namespace Manifest.Format

/-- How decoders are to take the documents of a format. -/
def dialect : Format → Dialect
  | .toml => Toml.dialect
  | .json => Json.dialect

/-- The document that a text stands for. -/
def tree? (format : Format) (text : String) : Option Document :=
  match format with
  | .toml => Toml.Reader.read text
  | .json => if (Json.read text.toList).2 then some (Json.read text.toList).1 else none

theorem decode_of_tree? {α : Type} {format : Format} {text : String} {tree : Document}
    (htree : format.tree? text = some tree) (decoder : Decoder α) :
    format.decode decoder text = decoder format.dialect tree := by
  cases format with
  | toml =>
    have hread : Toml.Reader.read text = some tree := htree
    simp only [decode, Toml.decode, hread, dialect]
  | json =>
    simp only [tree?] at htree
    split at htree
    · next hfinished =>
      cases htree
      simp only [decode, Json.decode, hfinished, dialect, if_true]
      cases decoder Json.dialect (Json.read text.toList).1 <;> rfl
    · cases htree

end Manifest.Format

open Manifest (Format)

namespace Document

/-- A document that both formats can write: tables whose entries have names of their own,
lists, and texts. -/
inductive IsPlain : Document → Prop where
  | text (value : String) : IsPlain (.text (some value))
  | list {items : List Document} (hitems : ∀ item ∈ items, IsPlain item) : IsPlain (.list items)
  | table {entries : List (Option String × Document)} (hnames : none ∉ entries.map (·.1))
      (hkeys : (entries.map (·.1)).Nodup) (hentries : ∀ entry ∈ entries, IsPlain entry.2) :
      IsPlain (.table entries)

/-- The same document, but for the order of entries. -/
inductive Reordered : Document → Document → Prop where
  | refl (document : Document) : Reordered document document
  | symm {document other : Document} (h : Reordered document other) : Reordered other document
  | trans {first second third : Document} (h : Reordered first second)
      (h' : Reordered second third) : Reordered first third
  | table {entries entries' : List (Option String × Document)}
      (hkeys : (entries.map (·.1)).Nodup) (hperm : entries.Perm entries') :
      Reordered (.table entries) (.table entries')
  | entry {name : String} {document other : Document} (h : Reordered document other)
      (front back : List (Option String × Document)) :
      Reordered (.table (front ++ (some name, document) :: back))
        (.table (front ++ (some name, other) :: back))
  | item {document other : Document} (h : Reordered document other)
      (front back : List Document) :
      Reordered (.list (front ++ document :: back)) (.list (front ++ other :: back))

/-- What single steps keep does not depend on the order of entries. -/
theorem Reordered.iff_of (P : Document → Prop) {document other : Document}
    (h : document.Reordered other)
    (htable : ∀ entries entries' : List (Option String × Document),
      (entries.map (·.1)).Nodup → entries.Perm entries' → P (.table entries) →
      P (.table entries'))
    (hentry : ∀ (name : String) (document other : Document)
      (front back : List (Option String × Document)), document.Reordered other →
      P (.table (front ++ (some name, document) :: back)) →
      P (.table (front ++ (some name, other) :: back)))
    (hitem : ∀ (document other : Document) (front back : List Document),
      document.Reordered other → P (.list (front ++ document :: back)) →
      P (.list (front ++ other :: back))) :
    P document ↔ P other := by
  induction h with
  | refl _ => exact Iff.rfl
  | symm _ ih => exact ih.symm
  | trans _ _ ih ih' => exact ih.trans ih'
  | @table entries entries' hkeys hperm =>
    have hkeys' := (hperm.map (·.1)).nodup_iff.1 hkeys
    exact ⟨htable _ _ hkeys hperm, htable _ _ hkeys' hperm.symm⟩
  | entry h front back _ =>
    exact ⟨hentry _ _ _ front back h, hentry _ _ _ front back h.symm⟩
  | item h front back _ => exact ⟨hitem _ _ front back h, hitem _ _ front back h.symm⟩

theorem wholeItems_iff {items : List Document} :
    wholeItems items = true ↔ ∀ item ∈ items, item.whole = true := by
  induction items with
  | nil => simp [wholeItems]
  | cons item items ih => simp [wholeItems, ih]

theorem wholeEntries_iff {entries : List (Option String × Document)} :
    wholeEntries entries = true ↔ ∀ entry ∈ entries, entry.2.whole = true := by
  induction entries with
  | nil => simp [wholeEntries]
  | cons entry entries ih => simp [wholeEntries, ih]

theorem Reordered.whole_iff {document other : Document} (h : document.Reordered other) :
    document.whole = true ↔ other.whole = true := by
  induction h with
  | refl _ => exact Iff.rfl
  | symm _ ih => exact ih.symm
  | trans _ _ ih ih' => exact ih.trans ih'
  | table _ hperm => simp only [whole, wholeEntries_iff, hperm.mem_iff]
  | entry _ _ _ ih =>
    simp only [whole, wholeEntries_iff, List.forall_mem_append, List.forall_mem_cons, ih]
  | item _ _ _ ih =>
    simp only [whole, wholeItems_iff, List.forall_mem_append, List.forall_mem_cons, ih]

/-- So does what is neither a table nor a list. -/
theorem Reordered.iff_of_leaf (P : Document → Prop) {document other : Document}
    (h : document.Reordered other) (htable : ∀ entries, ¬P (.table entries))
    (hlist : ∀ items, ¬P (.list items)) : P document ↔ P other :=
  h.iff_of P (fun _ _ _ _ h => absurd h (htable _)) (fun _ _ _ _ _ _ h => absurd h (htable _))
    fun _ _ _ _ _ h => absurd h (hlist _)

end Document

/-- No format looks at the order of entries behind the name of a variant. -/
theorem Manifest.Format.payload_iff (format : Format) {document other : Document}
    (h : document.Reordered other) :
    format.dialect.payload document = .ok () ↔ format.dialect.payload other = .ok () := by
  refine h.iff_of (format.dialect.payload · = .ok ()) ?_ ?_ ?_
  · intro entries entries' _ hperm hpayload
    cases format with
    | json => cases hpayload
    | toml =>
      cases entries with
      | nil => rwa [hperm.nil_eq] at hpayload
      | cons _ _ => cases hpayload
  · intro _ _ _ front _ _ hpayload
    cases format <;> cases front <;> cases hpayload
  · intro _ _ front _ _ hpayload
    cases format <;> cases front <;> cases hpayload

namespace Decoder
variable {α : Type} {decoder : Decoder α} {dialect dialect' : Dialect}

/-- In every format, related documents are the same to a decoder. -/
def Respects (decoder : Decoder α) (relation : Document → Document → Prop) : Prop :=
  ∀ (format : Format) {document other : Document}, relation document other →
    ∀ value, decoder format.dialect document = .ok value ↔ decoder format.dialect other = .ok value

/-- The order of entries means nothing to a decoder, and what it takes from JSON, it takes
from TOML. -/
structure IsPortable (decoder : Decoder α) : Prop where
  order : decoder.Respects Document.Reordered
  agrees : ∀ {document : Document}, document.IsPlain →
    ∀ value, decoder Json.dialect document = .ok value → decoder Toml.dialect document = .ok value

theorem text_portable : text.IsPortable where
  order format _ _ h value :=
    h.iff_of_leaf (text format.dialect · = .ok value) (fun _ h => by cases h) fun _ h => by cases h
  agrees _ _ h := h

theorem variant_eq_ok_iff {variants : List (String × α)} {document : Document} {value : α} :
    variant variants dialect document = .ok value ↔
      (∃ name, document = .text (some name) ∧ variantNamed variants name = .ok value) ∨
      ∃ name payload, document = .table [(some name, payload)] ∧
        variantNamed variants name = .ok value ∧ dialect.payload payload = .ok () := by
  fun_cases variant variants dialect document with
  | case1 name => simp
  | case2 name payload rest hcounts =>
    have hrest : rest ≠ [] := by
      rintro rfl
      simp at hcounts
    simp [hrest]
  | case3 name payload rest =>
    cases hvalue : variantNamed variants name with
    | error mismatch => simp [hvalue, Bind.bind, Except.bind]
    | ok named =>
      cases hpayload : dialect.payload payload with
      | error mismatch => simp [hpayload, Bind.bind, Except.bind]
      | ok =>
        cases rest with
        | nil => simp [hvalue, hpayload, Bind.bind, Except.bind, and_assoc]
        | cons _ _ => simp [Bind.bind, Except.bind]
  | case4 _ htext htable =>
    refine ⟨fun h => (by cases h), ?_⟩
    rintro (⟨name, rfl, _⟩ | ⟨name, payload, rfl, _⟩)
    · exact absurd rfl (htext name)
    · exact absurd rfl (htable name payload [])

theorem variant_portable (variants : List (String × α)) : (variant variants).IsPortable where
  order format _ _ h value := by
    refine h.iff_of (variant variants format.dialect · = .ok value) ?_ ?_ ?_
    · intro entries entries' _ hperm hvalue
      rcases variant_eq_ok_iff.1 hvalue with ⟨_, hdocument, _⟩ | ⟨name, payload, hdocument, hnamed⟩
      · cases hdocument
      · cases hdocument
        rw [← List.singleton_perm.1 hperm]
        exact hvalue
    · intro key document other front back h hvalue
      rcases variant_eq_ok_iff.1 hvalue with ⟨_, hdocument, _⟩ | ⟨name, payload, hdocument, hnamed⟩
      · cases hdocument
      · obtain ⟨rfl, hback⟩ : front = [] ∧ back = [] := by
          have hlength := congrArg List.length (Document.table.inj hdocument)
          simp only [List.length_append, List.length_cons, List.length_nil] at hlength
          exact ⟨List.eq_nil_of_length_eq_zero (by omega), List.eq_nil_of_length_eq_zero (by omega)⟩
        cases hdocument
        exact variant_eq_ok_iff.2 (.inr ⟨_, other, rfl, hnamed.1,
          (format.payload_iff h).1 hnamed.2⟩)
    · intro _ _ _ _ _ hvalue
      cases hvalue
  agrees hplain value h := by
    rcases variant_eq_ok_iff.1 h with ⟨name, rfl, hnamed⟩ | ⟨name, payload, rfl, _, hpayload⟩
    · exact hnamed
    · -- What JSON wants behind the name of a variant is null, and no plain document is.
      cases hplain with
      | table _ _ hentries =>
        have hnull := hentries _ (List.mem_cons_self ..)
        cases hnull <;> cases hpayload

theorem optional_eq_ok_iff {document : Document} {value : Option α} :
    decoder.optional dialect document = .ok value ↔
      document = .null ∧ value = none ∨
      document ≠ .null ∧ ∃ part, decoder dialect document = .ok part ∧ value = some part := by
  fun_cases optional decoder dialect document with
  | case1 => simp [eq_comm]
  | case2 _ hnull =>
    have hnull : document ≠ .null := hnull
    cases decoder dialect document <;> simp [hnull, Except.map, eq_comm]

theorem IsPortable.optional (h : decoder.IsPortable) : decoder.optional.IsPortable where
  order format _ _ hsame value := by
    have hnull := hsame.iff_of_leaf (· = .null) (fun _ h => by cases h) fun _ h => by cases h
    simp only [optional_eq_ok_iff, ne_eq, hnull, h.order format hsame]
  agrees hplain value := by
    simp only [optional_eq_ok_iff]
    rintro (hnull | ⟨hnull, part, hpart, hvalue⟩)
    · exact .inl hnull
    · exact .inr ⟨hnull, part, h.agrees hplain part hpart, hvalue⟩

theorem list_eq_ok_iff {document : Document} {values : List α} :
    decoder.list dialect document = .ok values ↔
      ∃ parts, document = .list parts ∧ items decoder dialect parts = .ok values := by
  fun_cases list decoder dialect document with
  | case1 parts => simp
  | case2 _ hlist =>
    refine ⟨fun h => (by cases h), ?_⟩
    rintro ⟨parts, rfl, _⟩
    exact absurd rfl (hlist parts)

theorem items_cons_eq_ok_iff {part : Document} {parts : List Document} {values : List α} :
    items decoder dialect (part :: parts) = .ok values ↔
      ∃ value rest, decoder dialect part = .ok value ∧ items decoder dialect parts = .ok rest ∧
        values = value :: rest := by
  rw [items]
  cases decoder dialect part with
  | error mismatch => simp [Bind.bind, Except.bind]
  | ok value =>
    cases items decoder dialect parts <;>
      simp [Bind.bind, Except.bind, Pure.pure, Except.pure, eq_comm]

theorem items_nil_iff {parts : List Document} {values : List α}
    (h : items decoder dialect parts = .ok values) : values = [] ↔ parts = [] := by
  cases parts with
  | nil =>
    cases h
    simp
  | cons part parts =>
    obtain ⟨value, rest, _, _, rfl⟩ := items_cons_eq_ok_iff.1 h
    simp

theorem items_replace {part other : Document} {front back : List Document} {values : List α}
    (hpart : ∀ value, decoder dialect part = .ok value → decoder dialect other = .ok value)
    (h : items decoder dialect (front ++ part :: back) = .ok values) :
    items decoder dialect (front ++ other :: back) = .ok values := by
  induction front generalizing values with
  | nil =>
    obtain ⟨value, rest, hvalue, hrest, rfl⟩ := items_cons_eq_ok_iff.1 h
    exact items_cons_eq_ok_iff.2 ⟨value, rest, hpart value hvalue, hrest, rfl⟩
  | cons first front ih =>
    obtain ⟨value, rest, hvalue, hrest, rfl⟩ := items_cons_eq_ok_iff.1 h
    exact items_cons_eq_ok_iff.2 ⟨value, rest, hvalue, ih hrest, rfl⟩

theorem items_transfer {parts : List Document} {values : List α}
    (hparts : ∀ part ∈ parts, ∀ value, decoder dialect part = .ok value →
      decoder dialect' part = .ok value)
    (h : items decoder dialect parts = .ok values) : items decoder dialect' parts = .ok values := by
  induction parts generalizing values with
  | nil => exact h
  | cons part parts ih =>
    obtain ⟨hpart, hparts⟩ := List.forall_mem_cons.1 hparts
    obtain ⟨value, rest, hvalue, hrest, rfl⟩ := items_cons_eq_ok_iff.1 h
    exact items_cons_eq_ok_iff.2 ⟨value, rest, hpart value hvalue, ih hparts hrest, rfl⟩

theorem IsPortable.list (h : decoder.IsPortable) : decoder.list.IsPortable where
  order format _ _ hsame values := by
    refine hsame.iff_of (decoder.list format.dialect · = .ok values) ?_ ?_ ?_
    · intro _ _ _ _ hvalues
      cases hvalues
    · intro _ _ _ _ _ _ hvalues
      cases hvalues
    · intro _ _ _ _ hpart hvalues
      exact items_replace (fun value => (h.order format hpart value).1) hvalues
  agrees hplain values hvalues := by
    obtain ⟨parts, rfl, hparts⟩ := list_eq_ok_iff.1 hvalues
    cases hplain with
    | list hitems =>
      exact items_transfer (fun part hmem => h.agrees (hitems part hmem)) hparts

end Decoder

/-- In every format, related documents are the same to a field. -/
def Field.Respects {α : Type} (field : Field α) (relation : Document → Document → Prop) : Prop :=
  ∀ (format : Format) {document other : Document}, relation document other →
    ∀ value result, field.store format.dialect document value = .ok result ↔
      field.store format.dialect other value = .ok result

theorem Decoder.Respects.field {α β : Type} {decoder : Decoder β}
    {relation : Document → Document → Prop} (h : decoder.Respects relation) (name : String)
    (required : Bool) (update : β → α → α) :
    (Field.of name required decoder update).Respects relation := by
  intro format document other hrelation value result
  simp only [Field.of_store_eq_ok_iff, h format hrelation]

/-- The order of entries means nothing to a field, and what it takes from JSON, it takes from
TOML. -/
structure Field.IsPortable {α : Type} (field : Field α) : Prop where
  order : field.Respects Document.Reordered
  agrees : ∀ {document : Document}, document.IsPlain →
    field.Carries Json.dialect Toml.dialect document document

theorem Decoder.IsPortable.field {α β : Type} {decoder : Decoder β} (h : decoder.IsPortable)
    (name : String) (required : Bool) (update : β → α → α) :
    (Field.of name required decoder update).IsPortable where
  order := h.order.field name required update
  agrees hplain value result hstore := by
    obtain ⟨part, hpart, hresult⟩ := Field.of_store_eq_ok_iff.1 hstore
    exact Field.of_store_eq_ok_iff.2 ⟨part, h.agrees hplain part hpart, hresult⟩

/-- **A structure of portable fields is portable**, if its fields keep out of each other's
way. -/
theorem Record.portable {α : Type} {record : Record α} (hregular : record.IsRegular)
    (hfields : ∀ field ∈ record.fields, field.IsPortable) : record.decoder.IsPortable where
  order format _ _ hsame value := by
    refine hsame.iff_of (record.decoder format.dialect · = .ok value) ?_ ?_ ?_
    · intro entries entries' hkeys hperm h
      exact fills_iff.1 ((fills_iff.2 h).perm hregular hperm hkeys)
    · intro name document other front back hsame h
      refine fills_iff.1 ((fills_iff.2 h).replace (fun _ => hsame.whole_iff.1) ?_)
      intro field hname value result
      exact ((hfields field (mem_of_field? hname).1).order format hsame value result).1
    · intro document other front back hsame h
      refine ofItems_replace h fun field hfield value result => ?_
      exact ((hfields field (List.mem_of_getElem? hfield)).order format hsame value result).1
  agrees hplain value h := by
    cases hplain with
    | text _ => cases h
    | list hitems =>
      exact ofItems_transfer h (fun _ => rfl) fun field hfield item hitem =>
        (hfields field hfield).agrees (hitems item hitem)
    | table _ _ hentries =>
      exact fills_iff.1 ((fills_iff.2 h).transfer fun field hfield entry hentry =>
        (hfields field hfield).agrees (hentries entry hentry))

end FactoryGen

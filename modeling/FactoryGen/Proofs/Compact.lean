import FactoryGen.Json.Decoding
import FactoryGen.Json.Printer

/-! Reading JSON that was written on one line.

A text comes back from between its quotes whatever characters it has
(`readText_escaped`), since every escape is read as the character it was written for. A value
tells by its first character what it is, and ends where its brackets do, so it can be read
with anything behind it (`readValue_compact`), and the reader gets the document that holds
the value (`read_compact`). Numbers are left aside: where one ends depends on what comes
behind it. -/
namespace FactoryGen

/-- A document that holds a value is the document of that value. -/
theorem Document.eq_ofJson_of_value? {document : Document} {value : Json}
    (h : document.value? = some value) : document = .ofJson value := by
  refine (value?.mutual_induct_unfolding
    (fun document found => ∀ value, found = some value → document = .ofJson value)
    (fun entries found => ∀ members, found = some members → entries = ofMembers members)
    (fun items found => ∀ values, found = some values → items = ofItems values)
    ?null ?bool ?number ?text ?list ?table ?moment ?broken ?nil ?cons ?lost ?nil' ?cons' ?lost').1
    document value h
  case null | nil | nil' =>
    intro _ h
    cases h
    rfl
  case bool =>
    intro _ _ h
    cases h
    rfl
  case moment | broken =>
    intro _ h
    cases h
  case lost =>
    intro _ _ _ _ _ _ h
    cases h
  case lost' =>
    intro _ _ _ _ _ _ _ h
    cases h
  case number | text =>
    intro part value h
    obtain ⟨part, rfl, rfl⟩ := Option.map_eq_some_iff.1 h
    rfl
  case list | table =>
    intro parts ih value h
    obtain ⟨values, hvalues, rfl⟩ := Option.map_eq_some_iff.1 h
    rw [ofJson, ih values hvalues]
  case cons =>
    intro item rest value values hvalues hvalue ih ih' _ h
    cases h
    rw [ofItems, ih value hvalue, ih' values hvalues]
  case cons' =>
    intro item rest key value members hmembers hvalue ih ih' _ h
    cases h
    rw [ofMembers, ih value hvalue, ih' members hmembers]

namespace Json

mutual

/-- Whether there is no number in a value. -/
def isNumberFree : Json → Bool
  | .number _ => false
  | .list items => areNumberFree items
  | .object members => hasNumberFree members
  | _ => true

def areNumberFree : List Json → Bool
  | [] => true
  | item :: rest => item.isNumberFree && areNumberFree rest

def hasNumberFree : List (String × Json) → Bool
  | [] => true
  | (_, value) :: rest => value.isNumberFree && hasNumberFree rest

end

namespace Reader

/-! ### Texts -/

theorem hexValue?_hexDigit {n : Nat} (h : n < 16) : hexValue? (hexDigit n) = some n := by
  revert n
  decide

/-- A character is written behind a backslash, by its code point, or as it is. -/
theorem escapeChar_cases (c : Char) :
    (∃ letter, escapeChar c = ['\\', letter] ∧ letter ≠ 'u' ∧ shortEscape? letter = some c) ∨
    (escapeChar c = ['\\', 'u', '0', '0', hexDigit (c.toNat / 16), hexDigit (c.toNat % 16)] ∧
      c.toNat < 32) ∨
    (escapeChar c = [c] ∧ c ≠ '"' ∧ c ≠ '\\' ∧ ¬c.toNat < 32) := by
  unfold escapeChar
  iterate 7
    split
    · next h =>
      subst h
      exact .inl ⟨_, rfl, by decide, by decide⟩
  split
  · next h => exact .inr (.inl ⟨rfl, h⟩)
  · next hquote hbackslash _ _ _ _ _ h => exact .inr (.inr ⟨rfl, hquote, hbackslash, h⟩)

/-- An escape is read as the character it was written for. -/
theorem readUnits_escapeChar (c : Char) (rest : List Char) :
    readUnits (escapeChar c ++ rest) =
      (readUnits rest).map fun (units, rest) => (c.toNat :: units, rest) := by
  rcases escapeChar_cases c with ⟨letter, hchars, hu, hshort⟩ | ⟨hchars, hlow⟩ |
    ⟨hchars, hquote, hbackslash, hhigh⟩
  · rw [hchars, List.cons_append, List.cons_append, List.nil_append,
      readUnits.eq_3 _ _ fun _ _ _ _ _ h _ => hu h, hshort]
    cases readUnits rest <;> rfl
  · have hunit : hexUnit? '0' '0' (hexDigit (c.toNat / 16)) (hexDigit (c.toNat % 16)) =
        some c.toNat := by
      have hzero : hexValue? '0' = some 0 := by decide
      simp only [hexUnit?, hzero, hexValue?_hexDigit (show c.toNat / 16 < 16 by omega),
        hexValue?_hexDigit (show c.toNat % 16 < 16 by omega), Option.bind_eq_bind,
        Option.bind_some, Option.pure_def, Option.some.injEq]
      omega
    rw [hchars]
    simp only [List.cons_append, List.nil_append, readUnits, hunit]
    cases readUnits rest <;> rfl
  · rw [hchars, List.singleton_append, readUnits.eq_4 _ _ hquote (fun _ _ _ _ _ h _ => hbackslash h)
      (fun _ _ h _ => hbackslash h), if_neg (not_or.2 ⟨hbackslash, hhigh⟩)]

theorem readUnits_escaped (chars rest : List Char) :
    readUnits (chars.flatMap escapeChar ++ '"' :: rest) = some (chars.map Char.toNat, rest) := by
  induction chars with
  | nil => rw [List.flatMap_nil, List.nil_append, readUnits, List.map_nil]
  | cons c chars ih =>
    rw [List.flatMap_cons, List.append_assoc, readUnits_escapeChar, ih]
    rfl

/-- No character is half of a surrogate pair. -/
theorem not_surrogate (c : Char) :
    isHighSurrogate c.toNat = false ∧ isLowSurrogate c.toNat = false := by
  have hvalid : c.toNat < 0xd800 ∨ 0xdfff < c.toNat ∧ c.toNat < 0x110000 := c.valid
  simp only [isHighSurrogate, isLowSurrogate, decide_eq_false_iff_not]
  omega

theorem charactersOf_map (chars : List Char) :
    charactersOf (chars.map Char.toNat) = some chars := by
  induction chars with
  | nil => rfl
  | cons c chars ih =>
    have hc := not_surrogate c
    cases chars with
    | nil => simp [charactersOf, hc]
    | cons d chars =>
      rw [List.map_cons] at ih
      simp [charactersOf, hc, not_surrogate d, ih]

/-- A text comes back from between its quotes. -/
theorem readText_escaped (value : String) (rest : List Char) :
    readText (value.toList.flatMap escapeChar ++ '"' :: rest) = some (some value, rest) := by
  simp [readText, readUnits_escaped, charactersOf_map]

/-! ### Values -/

theorem skip_cons {c : Char} (h : isSpace c = false) (rest : List Char) :
    skip (c :: rest) = c :: rest := by
  simp [skip, h]

/-- What stands in front of a value is neither white space nor the end of a list. -/
theorem exists_first {value : Json} (h : value.isNumberFree = true) :
    ∃ c rest, value.compactChars = c :: rest ∧ isSpace c = false ∧ c ≠ ']' := by
  cases value with
  | null => exact ⟨_, _, rfl, by decide, by decide⟩
  | bool value => cases value <;> exact ⟨_, _, rfl, by decide, by decide⟩
  | number value => cases h
  | text value => exact ⟨_, _, rfl, by decide, by decide⟩
  | list items => cases items <;> exact ⟨_, _, rfl, by decide, by decide⟩
  | object members => cases members <;> exact ⟨_, _, rfl, by decide, by decide⟩

section
variable {fuel : Nat} {input rest : List Char}

theorem readValue_text {value : Option String} (h : readText input = some (value, rest)) :
    readValue (fuel + 1) ('"' :: input) = (.text value, some rest) := by
  have hquote : skip ('"' :: input) = '"' :: input := skip_cons (by decide) input
  simp only [readValue, hquote, h]

theorem readValue_items {c : Char} {items : List Document} (hspace : isSpace c = false)
    (hend : c ≠ ']') (h : readItems fuel (c :: input) = (items, some rest)) :
    readValue (fuel + 1) ('[' :: c :: input) = (.list items, some rest) := by
  have hopen : skip ('[' :: c :: input) = '[' :: c :: input := skip_cons (by decide) _
  simp only [readValue, hopen, skip_cons hspace]
  split
  · next hclose =>
    cases hclose
    exact absurd rfl hend
  · rw [h]

theorem readValue_entries {entries : List (Option String × Document)}
    (h : readEntries fuel ('"' :: input) = (entries, some rest)) :
    readValue (fuel + 1) ('\x7b' :: '"' :: input) = (.table entries, some rest) := by
  have hopen : skip ('\x7b' :: '"' :: input) = '\x7b' :: '"' :: input := skip_cons (by decide) _
  have hquote : skip ('"' :: input) = '"' :: input := skip_cons (by decide) input
  simp only [readValue, hopen, hquote]
  split
  · next hclose => cases hclose
  · rw [h]

theorem readItems_last {item : Document} (h : readValue fuel input = (item, some (']' :: rest))) :
    readItems (fuel + 1) input = ([item], some rest) := by
  have hclose : skip (']' :: rest) = ']' :: rest := skip_cons (by decide) rest
  simp only [readItems, h, hclose]

theorem readItems_next {item : Document} {items : List Document} {next : List Char}
    (h : readValue fuel input = (item, some (',' :: next)))
    (h' : readItems fuel next = (items, some rest)) :
    readItems (fuel + 1) input = (item :: items, some rest) := by
  have hcomma : skip (',' :: next) = ',' :: next := skip_cons (by decide) next
  simp only [readItems, h, hcomma, h']

/-- Before an entry is its key, then a colon. -/
theorem readEntries_key (key : String) (input : List Char) :
    skip (quote key ++ ':' :: input) = '"' :: (key.toList.flatMap escapeChar ++ '"' :: ':' :: input) ∧
    readText (key.toList.flatMap escapeChar ++ '"' :: ':' :: input) =
      some (some key, ':' :: input) ∧
    skip (':' :: input) = ':' :: input := by
  refine ⟨?_, readText_escaped key _, skip_cons (by decide) input⟩
  have hshape : quote key ++ ':' :: input =
      '"' :: (key.toList.flatMap escapeChar ++ '"' :: ':' :: input) := by simp [quote]
  rw [hshape]
  exact skip_cons (by decide) _

theorem readEntries_last {key : String} {value : Document}
    (h : readValue fuel input = (value, some ('\x7d' :: rest))) :
    readEntries (fuel + 1) (quote key ++ ':' :: input) = ([(some key, value)], some rest) := by
  obtain ⟨hquote, htext, hcolon⟩ := readEntries_key key input
  have hclose : skip ('\x7d' :: rest) = '\x7d' :: rest := skip_cons (by decide) rest
  simp only [readEntries, hquote, htext, hcolon, h, hclose]

theorem readEntries_next {key : String} {value : Document}
    {entries : List (Option String × Document)} {next : List Char}
    (h : readValue fuel input = (value, some (',' :: next)))
    (h' : readEntries fuel next = (entries, some rest)) :
    readEntries (fuel + 1) (quote key ++ ':' :: input) =
      ((some key, value) :: entries, some rest) := by
  obtain ⟨hquote, htext, hcolon⟩ := readEntries_key key input
  have hcomma : skip (',' :: next) = ',' :: next := skip_cons (by decide) next
  simp only [readEntries, hquote, htext, hcolon, h, hcomma, h']

end

/-- With so much fuel, whatever was written on one line is read back. -/
structure ReadsBack (fuel : Nat) : Prop where
  value : ∀ (value : Json) (rest : List Char), value.isNumberFree = true →
    value.compactChars.length < fuel →
    readValue fuel (value.compactChars ++ rest) = (.ofJson value, some rest)
  items : ∀ (item : Json) (items : List Json) (rest : List Char), item.isNumberFree = true →
    areNumberFree items = true → item.compactChars.length + (compactItems items).length < fuel →
    readItems fuel (item.compactChars ++ (compactItems items ++ rest)) =
      (.ofJson item :: Document.ofItems items, some rest)
  members : ∀ (key : String) (value : Json) (members : List (String × Json)) (rest : List Char),
    value.isNumberFree = true → hasNumberFree members = true →
    value.compactChars.length + (compactMembers members).length < fuel →
    readEntries fuel
        (quote key ++ ':' :: (value.compactChars ++ (compactMembers members ++ rest))) =
      ((some key, .ofJson value) :: Document.ofMembers members, some rest)

variable {fuel : Nat}

theorem ReadsBack.readValue_succ (h : ReadsBack fuel) (value : Json) (rest : List Char)
    (hfree : value.isNumberFree = true) (hfuel : value.compactChars.length < fuel + 1) :
    readValue (fuel + 1) (value.compactChars ++ rest) = (.ofJson value, some rest) := by
  cases value with
  | null => rfl
  | bool value => cases value <;> rfl
  | number value => cases hfree
  | text value =>
    have hshape : compactChars (.text value) ++ rest =
        '"' :: (value.toList.flatMap escapeChar ++ '"' :: rest) := by
      simp [compactChars, quote]
    rw [hshape]
    exact readValue_text (readText_escaped value rest)
  | list items =>
    cases items with
    | nil => rfl
    | cons item items =>
      obtain ⟨hitem, hitems⟩ : item.isNumberFree = true ∧ areNumberFree items = true :=
        Bool.and_eq_true_iff.1 hfree
      obtain ⟨c, front, hfront, hspace, hend⟩ := exists_first hitem
      have hread := h.items item items rest hitem hitems (by
        simp only [compactChars, List.length_cons, List.length_append] at hfuel
        omega)
      rw [compactChars, List.cons_append, List.append_assoc]
      rw [hfront, List.cons_append] at hread ⊢
      exact readValue_items hspace hend hread
  | object members =>
    cases members with
    | nil => rfl
    | cons member members =>
      obtain ⟨key, value⟩ := member
      obtain ⟨hvalue, hmembers⟩ : value.isNumberFree = true ∧ hasNumberFree members = true :=
        Bool.and_eq_true_iff.1 hfree
      have hread := h.members key value members rest hvalue hmembers (by
        simp only [compactChars, List.length_cons, List.length_append] at hfuel
        omega)
      rw [compactChars]
      simp only [List.cons_append, List.append_assoc]
      rw [quote, List.cons_append] at hread ⊢
      exact readValue_entries hread

theorem ReadsBack.readItems_succ (h : ReadsBack fuel) (item : Json) (items : List Json)
    (rest : List Char) (hitem : item.isNumberFree = true) (hitems : areNumberFree items = true)
    (hfuel : item.compactChars.length + (compactItems items).length < fuel + 1) :
    readItems (fuel + 1) (item.compactChars ++ (compactItems items ++ rest)) =
      (.ofJson item :: Document.ofItems items, some rest) := by
  have hpositive : 0 < (compactItems items).length := by cases items <;> simp [compactItems]
  have hread := h.value item (compactItems items ++ rest) hitem (by omega)
  cases items with
  | nil => exact readItems_last hread
  | cons next items =>
    obtain ⟨hnext, hrest⟩ : next.isNumberFree = true ∧ areNumberFree items = true :=
      Bool.and_eq_true_iff.1 hitems
    have hshape : compactItems (next :: items) ++ rest =
        ',' :: (next.compactChars ++ (compactItems items ++ rest)) := by
      simp [compactItems]
    rw [hshape] at hread ⊢
    refine readItems_next hread (h.items next items rest hnext hrest ?_)
    simp only [compactItems, List.length_cons, List.length_append] at hfuel
    omega

theorem ReadsBack.readEntries_succ (h : ReadsBack fuel) (key : String) (value : Json)
    (members : List (String × Json)) (rest : List Char) (hvalue : value.isNumberFree = true)
    (hmembers : hasNumberFree members = true)
    (hfuel : value.compactChars.length + (compactMembers members).length < fuel + 1) :
    readEntries (fuel + 1)
        (quote key ++ ':' :: (value.compactChars ++ (compactMembers members ++ rest))) =
      ((some key, .ofJson value) :: Document.ofMembers members, some rest) := by
  have hpositive : 0 < (compactMembers members).length := by
    rcases members with _ | ⟨⟨_, _⟩, _⟩ <;> simp [compactMembers]
  have hread := h.value value (compactMembers members ++ rest) hvalue (by omega)
  cases members with
  | nil => exact readEntries_last hread
  | cons next members =>
    obtain ⟨name, part⟩ := next
    obtain ⟨hpart, hrest⟩ : part.isNumberFree = true ∧ hasNumberFree members = true :=
      Bool.and_eq_true_iff.1 hmembers
    have hshape : compactMembers ((name, part) :: members) ++ rest =
        ',' :: (quote name ++ ':' :: (part.compactChars ++ (compactMembers members ++ rest))) := by
      simp [compactMembers]
    rw [hshape] at hread ⊢
    refine readEntries_next hread (h.members name part members rest hpart hrest ?_)
    simp only [compactMembers, List.length_cons, List.length_append] at hfuel
    omega

theorem readsBack (fuel : Nat) : ReadsBack fuel := by
  induction fuel with
  | zero =>
    exact ⟨fun _ _ _ h => absurd h (Nat.not_lt_zero _),
      fun _ _ _ _ _ h => absurd h (Nat.not_lt_zero _),
      fun _ _ _ _ _ _ h => absurd h (Nat.not_lt_zero _)⟩
  | succ fuel ih => exact ⟨ih.readValue_succ, ih.readItems_succ, ih.readEntries_succ⟩

end Reader

/-- **What was written on one line is read back**, all of it. -/
theorem read_compact {value : Json} (h : value.isNumberFree = true) :
    read value.compact.toList = (.ofJson value, true) := by
  have hread := (Reader.readsBack (2 * value.compactChars.length + 2)).value value [] h (by omega)
  rw [List.append_nil] at hread
  rw [compact, String.toList_ofList, read, hread]
  rfl

/-- Values with one text have one document. -/
theorem ofJson_inj_of_compact {value other : Json} (hvalue : value.isNumberFree = true)
    (hother : other.isNumberFree = true) (h : value.compact = other.compact) :
    Document.ofJson value = .ofJson other := by
  have hread := read_compact hvalue
  rw [h, read_compact hother, Prod.mk.injEq] at hread
  exact hread.1.symm

/-- So decoding such a text is decoding the value. -/
theorem decode_compact {α : Type} (decoder : Decoder α) {value : Json}
    (h : value.isNumberFree = true) :
    decode decoder value.compact = decoder dialect (.ofJson value) := by
  rw [decode, read_compact h]
  dsimp only
  cases decoder dialect (.ofJson value) <;> rfl

end Json
end FactoryGen

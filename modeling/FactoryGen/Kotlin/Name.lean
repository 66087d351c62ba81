import FactoryGen.Unicode.Letter
import FactoryGen.Unicode.DecimalDigit

/-! Names in Kotlin source.

An identifier starts with a letter or an underscore, goes on with letters,
decimal digits and underscores, and does not consist of underscores alone, which
the language reserves. The hard keywords have the form of identifiers but can
only be used as names between backticks: `escape` puts those on, `strip` takes
every backtick off, and `strip_escape` says that a name comes back. -/
namespace FactoryGen.Kotlin

/-- The mark on both sides of a name that would otherwise be a keyword. -/
def backtick : Char := '\x60'

/-- The words that are never names unless they stand between backticks. -/
def hardKeywords : List String :=
  ["as", "break", "class", "continue", "do", "else", "false", "for", "fun", "if", "in",
   "interface", "is", "null", "object", "package", "return", "super", "this", "throw", "true",
   "try", "typealias", "typeof", "val", "var", "when", "while"]

/-- A word that needs backticks to be a name. -/
def isHardKeyword (word : String) : Bool := hardKeywords.contains word

/-- A letter, a decimal digit or an underscore: what names go on with. -/
def isWordChar (c : Char) : Bool :=
  Unicode.isLetter c || Unicode.isDecimalDigit c || c == '_'

/-- A letter or an underscore: what names start with. -/
def isNameStart (c : Char) : Bool := Unicode.isLetter c || c == '_'

/-- The form of an identifier, keywords included. -/
def isIdentifier (name : String) : Bool :=
  match name.toList with
  | [] => false
  | first :: rest =>
    isNameStart first && rest.all isWordChar && (first :: rest).any (· != '_')

/-- A name as metadata gives it, without the backticks it may have on any of its
parts. -/
def strip (name : String) : String :=
  String.ofList (name.toList.filter (· != backtick))

/-- A name as source text writes it. -/
def escape (name : String) : String :=
  if isHardKeyword name then
    String.singleton backtick ++ name ++ String.singleton backtick
  else name

@[simp]
theorem toList_strip (name : String) : (strip name).toList = name.toList.filter (· != backtick) := by
  simp [strip]

/-- Stripping takes off all there is to take off. -/
@[simp]
theorem strip_strip (name : String) : strip (strip name) = strip name := by
  simp [strip, List.filter_filter]

/-- A word character is no backtick. -/
theorem ne_backtick_of_isWordChar {c : Char} (h : isWordChar c = true) : c ≠ backtick := by
  rintro rfl
  revert h
  decide

theorem isWordChar_of_isNameStart {c : Char} (h : isNameStart c = true) : isWordChar c = true := by
  simp only [isNameStart, Bool.or_eq_true] at h
  rcases h with h | h <;> simp [isWordChar, h]

/-- Every character of an identifier is a word character. -/
theorem isWordChar_of_isIdentifier {name : String} (h : isIdentifier name = true) :
    ∀ c ∈ name.toList, isWordChar c = true := by
  unfold isIdentifier at h
  split at h
  · simp at h
  · rename_i first rest hname
    simp only [Bool.and_eq_true, List.all_eq_true] at h
    intro c hc
    rw [hname] at hc
    rcases List.mem_cons.1 hc with rfl | hc
    · exact isWordChar_of_isNameStart h.1.1
    · exact h.1.2 c hc

theorem not_mem_of_isIdentifier {name : String} (h : isIdentifier name = true) {c : Char}
    (hc : isWordChar c = false) : c ∉ name.toList := by
  intro hmem
  rw [isWordChar_of_isIdentifier h c hmem] at hc
  cases hc

/-- Stripping leaves a name without backticks alone. -/
theorem strip_of_isIdentifier {name : String} (h : isIdentifier name = true) : strip name = name := by
  have hall : name.toList.filter (· != backtick) = name.toList := by
    rw [List.filter_eq_self]
    intro c hc
    simpa using ne_backtick_of_isWordChar (isWordChar_of_isIdentifier h c hc)
  rw [strip, hall, String.ofList_toList]

/-- An identifier comes back from its written form. -/
theorem strip_escape {name : String} (h : isIdentifier name = true) : strip (escape name) = name := by
  unfold escape
  split
  · have hname := strip_of_isIdentifier h
    rw [← String.toList_inj] at hname ⊢
    simpa [List.filter_append] using hname
  · exact strip_of_isIdentifier h

/-- What a written name is made of. -/
theorem mem_escape {c : Char} {name : String} (h : c ∈ (escape name).toList) :
    c = backtick ∨ c ∈ name.toList := by
  unfold escape at h
  split at h
  · simp only [String.toList_append, String.toList_singleton, List.mem_append, List.mem_singleton] at h
    rcases h with (h | h) | h
    · exact .inl h
    · exact .inr h
    · exact .inl h
  · exact .inr h

theorem not_mem_escape {name : String} (hname : isIdentifier name = true) {c : Char}
    (hc : c ≠ backtick) (hword : isWordChar c = false) : c ∉ (escape name).toList := by
  intro hmem
  rcases mem_escape hmem with rfl | hmem
  · exact hc rfl
  · exact not_mem_of_isIdentifier hname hword hmem

theorem escape_eq_empty_iff (name : String) : escape name = "" ↔ name = "" := by
  unfold escape
  split
  · next hkeyword =>
    constructor
    · intro h
      have hlength := congrArg String.length h
      simp only [String.length_append, String.length_singleton, String.length_empty] at hlength
      omega
    · rintro rfl
      revert hkeyword
      decide
  · exact Iff.rfl

end FactoryGen.Kotlin

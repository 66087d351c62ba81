import FactoryGen.Kotlin.Name

/-! Type references in Kotlin source, as far as a generator has to understand them.

A type arrives as text and is emitted between a parameter's name and the next
comma, so it must not be able to end the parameter it stands in. `isTypeReference`
splits the text into marks and reads them once from the left: brackets must nest
and be closed, an arrow follows a parameter list, a colon labels a parameter of a
function type, and two words never stand side by side. Names are not looked up:
what the words mean is left to the compiler. -/
namespace FactoryGen.Kotlin

/-- The two kinds of brackets that types are written with. -/
inductive Bracket where
  | round
  | angle
deriving DecidableEq, Repr

/-- What a type reference is made of. A word is one mark per character. -/
inductive Mark where
  | word
  | space
  | opening (bracket : Bracket)
  | closing (bracket : Bracket)
  | arrow
  | colon
  | dot
  | comma
  | question
  | star
deriving DecidableEq, Repr

/-- The mark that a single character is; a hyphen is none, since it only occurs in
arrows. -/
def Mark.ofChar? (c : Char) : Option Mark :=
  if c = ' ' then some .space
  else if c = '(' then some (.opening .round)
  else if c = ')' then some (.closing .round)
  else if c = '<' then some (.opening .angle)
  else if c = '>' then some (.closing .angle)
  else if c = ':' then some .colon
  else if c = '.' then some .dot
  else if c = ',' then some .comma
  else if c = '?' then some .question
  else if c = '*' then some .star
  else if isWordChar c then some .word
  else none

/-- The marks of a text, or nothing if a character has no place in a type. -/
def marks? : List Char → Option (List Mark)
  | [] => some []
  | '-' :: '>' :: rest => (marks? rest).map (.arrow :: ·)
  | c :: rest =>
    match Mark.ofChar? c, marks? rest with
    | some mark, some others => some (mark :: others)
    | _, _ => none

/-- Where a reader of marks stands. -/
structure TypeReader where
  /-- The brackets that are open, the innermost first. -/
  pending : List Bracket := []
  /-- The last mark, spaces apart. -/
  last : Option Mark := none
  /-- Whether spaces followed it. -/
  spaced : Bool := false
deriving DecidableEq, Repr

namespace TypeReader

def accepts (reader : TypeReader) : Mark → Bool
  | .space | .dot | .comma | .question | .star => true
  | .word => !(reader.last == some .word && reader.spaced)
  | .opening .angle => reader.last == some .word
  | .opening .round =>
    match reader.last with
    | some .word | some (.closing _) | some .dot | some .question | some .star => false
    | _ => true
  | .closing bracket => reader.pending.head? == some bracket
  | .arrow => reader.last == some (.closing .round)
  | .colon => reader.last == some .word && reader.pending.head? == some .round

def next (reader : TypeReader) : Mark → TypeReader
  | .space => { reader with spaced := true }
  | .opening bracket => ⟨bracket :: reader.pending, some (.opening bracket), false⟩
  | .closing bracket => ⟨reader.pending.tail, some (.closing bracket), false⟩
  | mark => ⟨reader.pending, some mark, false⟩

/-- The reader after a list of marks, if each could come next. -/
def read (reader : TypeReader) : List Mark → Option TypeReader
  | [] => some reader
  | mark :: rest => if reader.accepts mark then (reader.next mark).read rest else none

/-- Whether a type may end here: nothing is open, and what was read last can end
a type. -/
def complete (reader : TypeReader) : Bool :=
  reader.pending.isEmpty &&
    match reader.last with
    | some .word | some (.closing _) | some .question | some .star => true
    | _ => false

end TypeReader

/-- A type reference starts with a name or with the parameters of a function type. -/
def isTypeStart (c : Char) : Bool := isNameStart c || c == '('

/-- The form of a type reference. -/
def isTypeReference (type : String) : Bool :=
  match type.toList with
  | [] => false
  | first :: rest =>
    isTypeStart first &&
      match (marks? (first :: rest)).bind (TypeReader.read {}) with
      | some reader => reader.complete
      | none => false

end FactoryGen.Kotlin

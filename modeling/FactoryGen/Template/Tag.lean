import FactoryGen.Template.Reference

/-! Tags: what stands between double braces.

`Tag.read` reads what is inside; `Mark.read` finds the end of a tag and reads it,
the opening braces read already. Comments may hold anything but their own end. A
wave next to the braces tells that white space on that side is not wanted. -/
namespace FactoryGen.Template

/-- The name of a helper, what it is applied to, and the names it may give. -/
structure Call where
  helper : String
  subject : Option Reference
  names : List String
deriving DecidableEq, Repr, Inhabited

/-- What a tag asks for. -/
inductive Tag where
  | comment
  | value (reference : Reference)
  /-- A call outside of blocks. -/
  | call (helper : String)
  | opening (call : Call)
  /-- The start of an alternative, which may itself be a block. -/
  | otherwise (chained : Option Call)
  | closing (helper : String)
deriving DecidableEq, Repr, Inhabited

/-- A tag, and on which sides it trims white space. -/
structure Mark where
  tag : Tag
  trimsBefore : Bool
  trimsAfter : Bool
deriving DecidableEq, Repr, Inhabited

namespace Tag

def isSpace (c : Char) : Bool := c == ' ' || c == '\t' || c == '\n' || c == '\r'

/-- The first word of a text, without what is not yet a word, and the words after
it. A bracketed name is part of one word. -/
def cutWords : Bool → List Char → List Char × List (List Char)
  | _, [] => ([], [])
  | bracketed, c :: rest =>
    if !bracketed && isSpace c then
      let (word, words) := cutWords false rest
      ([], if word.isEmpty then words else word :: words)
    else
      let (word, words) := cutWords (if bracketed then c != ']' else c == '[') rest
      (c :: word, words)

def words (input : List Char) : List (List Char) :=
  let (word, words) := cutWords false input
  if word.isEmpty then words else word :: words

/-- A name that a block may give to a value. -/
def readBlockName (word : List Char) : Option String :=
  if word.all Reference.isNameChar then some (String.ofList word) else none

/-- Words that are never subjects. -/
def isReserved (word : List Char) : Bool := word == ['a', 's'] || word == ['e', 'l', 's', 'e']

/-- What a helper may be applied to. -/
def readSubject (word : List Char) : Option Reference :=
  if isReserved word then none else Reference.read word

/-- The call that some words make. -/
def readWords (names : List String) : List (List Char) → Option Call
  | [] => none
  | helper :: subjects => do
    let helper ← Reference.read helper
    let subjects ← subjects.mapM readSubject
    return ⟨helper.written, subjects.head?, names⟩

/-- A call. Names stand between bars behind the word `as`. -/
def readCall (input : List Char) : Option Call :=
  match input.dropWhile (· != '|') with
  | [] => readWords [] (words input)
  | _ :: behind => do
    let names ← (words (behind.takeWhile (· != '|'))).mapM readBlockName
    let before := (words (input.takeWhile (· != '|'))).reverse
    if (names.length = 1 ∨ names.length = 2) ∧ before.head? = some ['a', 's'] ∧
        words (behind.dropWhile (· != '|')) = [['|']] then
      readWords names before.tail.reverse
    else none

/-- A value, or a call outside of blocks. The name of a helper alone is a call. -/
def readExpression (input : List Char) : Option Tag :=
  match words input with
  | [word] =>
    (Reference.read word).map fun reference =>
      if (Helper.named? reference.written).isSome then .call reference.written
      else .value reference
  | words => (readWords [] words).map fun call => .call call.helper

/-- The alternative that an `else` opens. -/
def readOtherwise (input : List Char) : Option Tag :=
  match words input with
  | [] => some (.otherwise none)
  | _ => (readCall input).map fun call => .otherwise (some call)

/-- A tag that is no comment. -/
def read (input : List Char) : Option Tag :=
  match input.dropWhile isSpace with
  | '#' :: rest => (readCall rest).map .opening
  | '/' :: rest =>
    match words rest with
    | [word] => some (.closing (String.ofList word))
    | _ => none
  | '&' :: rest => readExpression rest
  | rest =>
    match words rest with
    | ['e', 'l', 's', 'e'] :: _ => readOtherwise (rest.drop 4)
    | _ => readExpression rest

end Tag

namespace Mark

/-- The text in front of the first of some endings, whether that ending trims, and
the text behind it. -/
def cutAt? (endings : List (List Char × Bool)) : List Char → Option (List Char × Bool × List Char)
  | [] => none
  | c :: rest =>
    match endings.find? fun ending => ending.1.isPrefixOf (c :: rest) with
    | some (ending, trims) => some ([], trims, (c :: rest).drop ending.length)
    | none =>
      match cutAt? endings rest with
      | some (inside, trims, behind) => some (c :: inside, trims, behind)
      | none => none

/-- The ends of a tag that starts with some characters more than two braces. -/
def endings (before : List Char) : List (List Char × Bool) :=
  [(before ++ ['~', '\x7d', '\x7d'], true), (before ++ ['\x7d', '\x7d'], false)]

/-- A comment, its exclamation mark read already, and the rest. With two dashes it
ends at two dashes, if there are any. -/
def readComment (trimsBefore : Bool) (input : List Char) : Option (Mark × List Char) :=
  let dashed := match input with
    | '-' :: '-' :: rest => cutAt? (endings ['-', '-']) rest
    | _ => none
  match dashed.or (cutAt? (endings []) input) with
  | some (_, trimsAfter, behind) => some (⟨.comment, trimsBefore, trimsAfter⟩, behind)
  | none => none

/-- A tag up to one of some endings, and the rest. -/
def readUpTo (endings : List (List Char × Bool)) (read : List Char → Option Tag)
    (trimsBefore : Bool) (input : List Char) : Option (Mark × List Char) := do
  let (inside, trimsAfter, behind) ← cutAt? endings input
  let tag ← read inside
  return (⟨tag, trimsBefore, trimsAfter⟩, behind)

/-- A tag after its opening braces and wave, and the rest. -/
def readInside (trimsBefore : Bool) (input : List Char) : Option (Mark × List Char) :=
  match input with
  | '\x7b' :: rest => readUpTo (endings ['\x7d']) Tag.readExpression trimsBefore rest
  | input =>
    match input.dropWhile Tag.isSpace with
    | '!' :: rest => readComment trimsBefore rest
    | _ => readUpTo (endings []) Tag.read trimsBefore input

/-- A tag after its opening braces, and the rest. -/
def read : List Char → Option (Mark × List Char)
  | '~' :: rest => readInside true rest
  | input => readInside false input

example : (read "#if a.b ~\x7d\x7d x".toList).map (·.1) =
    some ⟨.opening ⟨"if", some ⟨"a.b", .view 0, ["a", "b"]⟩, []⟩, false, true⟩ := by decide +kernel
example : (read "!-- \x7d\x7d --\x7d\x7dx".toList) = some (⟨.comment, false, false⟩, ['x']) := by
  decide +kernel

end Mark
end FactoryGen.Template

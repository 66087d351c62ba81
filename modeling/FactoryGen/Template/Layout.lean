import FactoryGen.Template.Tag
import FactoryGen.Unicode.Blank

/-! The layout of a template: its tags and the text around them.

A tag alone on its lines leaves no trace of them: if there are only blanks before
it, back to the start of the line, and only blanks after it, up to the end of the
line, then those blanks and the line break behind it do not count as text. This
holds for the tags of blocks and for comments; values are always part of their
line. Which tags are alone is a matter of the template as written, so `settle`
looks at the whole text between two tags even where a part of it is already
gone. -/
namespace FactoryGen.Template

/-- A template as written: text, and tags with the text behind each. -/
structure Layout where
  head : List Char
  marks : List (Mark × List Char)
deriving DecidableEq, Repr, Inhabited

/-- A part of a template once white space is settled. -/
inductive Piece where
  | text (text : String)
  | tag (tag : Tag)
deriving DecidableEq, Repr, Inhabited

namespace Layout

/-- The text before the first pair of opening braces, and what is behind them. -/
def cutText : List Char → List Char × Option (List Char)
  | '\x7b' :: '\x7b' :: rest => ([], some rest)
  | c :: rest =>
    let (text, behind) := cutText rest
    (c :: text, behind)
  | [] => ([], none)

/-- The layout of a text. Each tag takes a character at least. -/
def readFuelled : Nat → List Char → Option Layout
  | 0, _ => none
  | fuel + 1, input =>
    match cutText input with
    | (text, none) => some ⟨text, []⟩
    | (text, some behind) => do
      let (mark, rest) ← Mark.read behind
      let layout ← readFuelled fuel rest
      return ⟨text, (mark, layout.head) :: layout.marks⟩

/-- The layout of a text; nothing if some tag is malformed. -/
def read (input : List Char) : Option Layout := readFuelled (input.length + 1) input

/-- White space within a line. -/
def isIndent (c : Char) : Bool := c == ' ' || c == '\t'

/-- What starts and ends lines. -/
def isBreak (c : Char) : Bool := c == '\n' || c == '\r'

/-- Whether a tag can be alone on its lines. -/
def canStandAlone : Tag → Bool
  | .value _ | .call _ => false
  | _ => true

/-- Whether the line is blank before what follows a text. -/
def startsLine (first : Bool) (text : List Char) : Bool :=
  match text.reverse.dropWhile isIndent with
  | [] => first
  | c :: _ => isBreak c

/-- Whether the line is blank after what precedes a text. -/
def endsLine (last : Bool) (text : List Char) : Bool :=
  match text.dropWhile isIndent with
  | [] => last
  | c :: _ => isBreak c

/-- How much white space goes at one end of a text. -/
inductive Trim where
  | nothing
  /-- What belongs to the line of the tag. -/
  | line
  | all
deriving DecidableEq, Repr

/-- How much goes on one side of a tag. -/
def Trim.of (trims alone : Bool) : Trim :=
  if trims then .all else if alone then .line else .nothing

def dropBreak : List Char → List Char
  | '\r' :: '\n' :: rest => rest
  | '\n' :: rest => rest
  | input => input

def Trim.front : Trim → List Char → List Char
  | .nothing, text => text
  | .line, text => dropBreak (text.dropWhile isIndent)
  | .all, text => text.dropWhile Unicode.isBlank

def Trim.back : Trim → List Char → List Char
  | .nothing, text => text
  | .line, text => (text.reverse.dropWhile isIndent).reverse
  | .all, text => (text.reverse.dropWhile Unicode.isBlank).reverse

/-- A text as a piece, unless nothing is left of it. -/
def textPiece : List Char → List Piece
  | [] => []
  | text => [.text (String.ofList text)]

/-- A tag as a piece; comments are none. -/
def tagPiece : Tag → List Piece
  | .comment => []
  | tag => [.tag tag]

/-- The pieces of a text and the tags behind it. `first` tells whether the text is
the head of the template, and `front` what goes at its start. -/
def settle (first : Bool) (front : Trim) (text : List Char) :
    List (Mark × List Char) → List Piece
  | [] => textPiece (front.front text)
  | (mark, next) :: rest =>
    let alone := canStandAlone mark.tag && startsLine first text && endsLine rest.isEmpty next
    textPiece ((Trim.of mark.trimsBefore alone).back (front.front text)) ++
      tagPiece mark.tag ++ settle false (.of mark.trimsAfter alone) next rest

def pieces (layout : Layout) : List Piece := settle true .nothing layout.head layout.marks

end Layout
end FactoryGen.Template

import FactoryGen.Proofs.Nesting
import Mathlib.Data.List.DropRight

/-! The form of a type, told without a reader.

`isTypeReference` reads a text once from the left and remembers what is open, what it read
last and whether spaces followed. `TypeRules` says of the text as a whole what that comes to:
which characters it is made of, what may stand in front of each, that its brackets nest, and
how it starts and ends. `isTypeReference_iff` says that the two agree on every text.

What a reader remembers tells what it has read (`Stands`): one mark keeps this
(`Stands.next`, `Stands.arrow`), so a run does (`Stands.reads`). Hence a mark is accepted just
where the rules let its character stand (`accepts_iff`), and a text is read to its end just
if they let every character stand (`reads_iff`). -/
namespace FactoryGen.Kotlin

def Bracket.opening : Bracket → Char
  | .round => '('
  | .angle => '<'

def Bracket.closing : Bracket → Char
  | .round => ')'
  | .angle => '>'

/-- The brackets of a text nest and are all closed, where an arrow is no bracket. -/
inductive WellNested : List Char → Prop
  | nil : WellNested []
  | plain {c : Char} {rest : List Char} (hc : c ∉ ['(', ')', '<', '>', '-'])
    (hrest : WellNested rest) : WellNested (c :: rest)
  | arrow {rest : List Char} (hrest : WellNested rest) : WellNested ('-' :: '>' :: rest)
  | enclosed (bracket : Bracket) {inner rest : List Char} (hinner : WellNested inner)
    (hrest : WellNested rest) :
    WellNested (bracket.opening :: inner ++ bracket.closing :: rest)

/-- A text without the spaces at its end. -/
def visible (text : List Char) : List Char := text.rdropWhile (· == ' ')

/-- The last character that is no space. -/
def last? (text : List Char) : Option Char := (visible text).getLast?

/-- Spaces apart, a text ends in a word character. -/
def EndsInWord (text : List Char) : Prop := ∃ c, last? text = some c ∧ isWordChar c = true

/-- Spaces apart, a text ends in an arrow. -/
def EndsInArrow (text : List Char) : Prop := ['-', '>'] <:+ visible text

/-- Spaces apart, a text ends in a closing angle. -/
def EndsInAngle (text : List Char) : Prop := last? text = some '>' ∧ ¬ EndsInArrow text

/-- The innermost bracket that a text leaves open is a parenthesis. -/
def OpensRound (text : List Char) : Prop :=
  ∃ outer inner, text = outer ++ '(' :: inner ∧ WellNested inner

/-- The characters that types are written with. -/
def IsTypeChar (c : Char) : Prop :=
  Unicode.isLetter c = true ∨ Unicode.isDecimalDigit c = true ∨
    c ∈ ['_', '.', '<', '>', ',', '?', '*', '(', ')', ':', '-', ' ']

/-- What is asked of the text of a type. -/
structure TypeRules (text : List Char) : Prop where
  start : ∃ c, text.head? = some c ∧ (Unicode.isLetter c = true ∨ c = '_' ∨ c = '(')
  characters : ∀ c ∈ text, IsTypeChar c
  /-- A hyphen is the front of an arrow, and that follows a parameter list. -/
  hyphen : ∀ front back, text = front ++ '-' :: back →
    back.head? = some '>' ∧ last? front = some ')'
  nested : WellNested text
  /-- Type arguments follow a name. -/
  angle : ∀ front back, text = front ++ '<' :: back → EndsInWord front
  /-- A parenthesis never follows what could be called. -/
  round : ∀ front back, text = front ++ '(' :: back →
    ¬ EndsInWord front ∧ (∀ c ∈ [')', '.', '?', '*'], last? front ≠ some c) ∧
      ¬ EndsInAngle front
  /-- A colon stands behind a label of a parameter list. -/
  colon : ∀ front back, text = front ++ ':' :: back → EndsInWord front ∧ OpensRound front
  /-- Spaces alone never stand between two words. -/
  words : ∀ front a spaces b back, text = front ++ a :: (spaces ++ b :: back) →
    isWordChar a = true → isWordChar b = true → (∀ c ∈ spaces, c = ' ') → spaces = []
  finish : EndsInWord text ∨ (∃ c ∈ [')', '?', '*'], last? text = some c) ∨ EndsInAngle text

/-! ### The ends of texts -/

theorem visible_concat_space (text : List Char) : visible (text ++ [' ']) = visible text :=
  List.rdropWhile_concat_pos _ _ _ rfl

theorem visible_concat {c : Char} (hc : c ≠ ' ') (text : List Char) :
    visible (text ++ [c]) = text ++ [c] :=
  List.rdropWhile_concat_neg _ _ _ (by simpa using hc)

theorem visible_append_spaces {spaces : List Char} (h : ∀ c ∈ spaces, c = ' ')
    (text : List Char) : visible (text ++ spaces) = visible text := by
  induction spaces generalizing text with
  | nil => rw [List.append_nil]
  | cons c spaces ih =>
    obtain ⟨rfl, hrest⟩ := List.forall_mem_cons.1 h
    rw [List.append_cons, ih hrest, visible_concat_space]

/-- A text is what is visible of it and spaces. -/
theorem exists_spaces (text : List Char) :
    ∃ spaces, (∀ c ∈ spaces, c = ' ') ∧ text = visible text ++ spaces := by
  refine ⟨text.rtakeWhile (· == ' '), fun c hc => ?_, List.rdropWhile_append_rtakeWhile.symm⟩
  have hspace := List.mem_rtakeWhile_imp hc
  simpa using hspace

theorem last?_concat_space (text : List Char) : last? (text ++ [' ']) = last? text := by
  rw [last?, visible_concat_space, last?]

theorem last?_concat {c : Char} (hc : c ≠ ' ') (text : List Char) :
    last? (text ++ [c]) = some c := by
  rw [last?, visible_concat hc, List.getLast?_concat]

theorem EndsInArrow.last?_eq {text : List Char} (h : EndsInArrow text) : last? text = some '>' := by
  obtain ⟨front, hfront⟩ := h
  rw [last?, ← hfront, List.append_cons, List.getLast?_concat]

theorem not_endsInArrow_of_last? {text : List Char} {c : Char} (h : last? text = some c)
    (hc : c ≠ '>') : ¬ EndsInArrow text := by
  intro harrow
  rw [harrow.last?_eq] at h
  exact hc (Option.some.inj h).symm

theorem endsInArrow_concat {c : Char} (hc : c ≠ ' ') (text : List Char) :
    EndsInArrow (text ++ [c]) ↔ c = '>' ∧ text.getLast? = some '-' := by
  rw [EndsInArrow, visible_concat hc]
  constructor
  · rintro ⟨front, hfront⟩
    rw [List.append_cons] at hfront
    obtain ⟨hback, hlast⟩ := List.append_inj' hfront rfl
    rw [← hback, List.getLast?_concat]
    exact ⟨(List.singleton_inj.1 hlast).symm, rfl⟩
  · rintro ⟨rfl, hlast⟩
    obtain ⟨front, rfl⟩ := List.getLast?_eq_some_iff.1 hlast
    exact ⟨front, by rw [List.append_cons]⟩

/-! ### Nesting -/

namespace WellNested

theorem append {front back : List Char} (hfront : WellNested front) (hback : WellNested back) :
    WellNested (front ++ back) := by
  induction hfront with
  | nil => exact hback
  | plain hc _ ih => exact .plain hc ih
  | arrow _ ih => exact .arrow ih
  | enclosed bracket hinner _ _ ih =>
    rw [List.append_assoc, List.cons_append]
    exact .enclosed bracket hinner ih

/-- A reader of brackets is behind such a text where it was in front of it. -/
theorem read {text : List Char} (h : WellNested text) (pending : List Bracket) :
    Nesting.read ⟨pending, false⟩ text = some ⟨pending, false⟩ := by
  induction h generalizing pending with
  | nil => rfl
  | @plain c rest hc _ ih =>
    simp only [List.mem_cons, List.not_mem_nil, or_false, not_or] at hc
    obtain ⟨hround, hround', hangle, hangle', hhyphen⟩ := hc
    simp only [Nesting.read, Nesting.next?, hround, hround', hangle, hangle', if_false,
      beq_eq_false_iff_ne.2 hhyphen, Option.bind_some, ih]
  | arrow _ ih => exact ih pending
  | enclosed bracket _ _ ih ih' =>
    rw [List.cons_append, Nesting.read]
    cases bracket <;>
    · show (Nesting.read ⟨_ :: pending, false⟩ _) = _
      rw [Nesting.read_append, ih]
      exact ih' pending

end WellNested

/-- A text leaves some brackets open, and is well nested apart from them. -/
inductive Leaves : List Char → List Bracket → Prop
  | closed {text : List Char} (h : WellNested text) : Leaves text []
  | opened (bracket : Bracket) {outer inner : List Char} {pending : List Bracket}
    (houter : Leaves outer pending) (hinner : WellNested inner) :
    Leaves (outer ++ bracket.opening :: inner) (bracket :: pending)

namespace Leaves
variable {front : List Char} {pending : List Bracket}

theorem append {back : List Char} (h : Leaves front pending) (hback : WellNested back) :
    Leaves (front ++ back) pending := by
  cases h with
  | closed hfront => exact .closed (hfront.append hback)
  | opened bracket houter hinner =>
    rw [List.append_assoc, List.cons_append]
    exact .opened bracket houter (hinner.append hback)

theorem opening (h : Leaves front pending) (bracket : Bracket) :
    Leaves (front ++ [bracket.opening]) (bracket :: pending) := .opened bracket h .nil

theorem closing {bracket : Bracket} (h : Leaves front (bracket :: pending)) :
    Leaves (front ++ [bracket.closing]) pending := by
  cases h with
  | opened _ houter hinner =>
    rw [List.append_assoc]
    exact houter.append (.enclosed bracket hinner .nil)

theorem wellNested (h : Leaves front []) : WellNested front := by
  cases h with
  | closed h => exact h

/-- The brackets left open are those that a reader of brackets remembers. -/
theorem read (h : Leaves front pending) : Nesting.read {} front = some ⟨pending, false⟩ := by
  induction h with
  | closed h => exact h.read []
  | @opened bracket outer inner pending houter hinner ih =>
    rw [Nesting.read_append, ih, Option.bind_some]
    cases bracket <;> exact hinner.read _

/-- Whether the innermost open bracket is a parenthesis. -/
theorem head?_eq_round_iff (h : Leaves front pending) :
    pending.head? = some .round ↔ OpensRound front := by
  constructor
  · intro hhead
    cases h with
    | closed h => cases hhead
    | @opened bracket outer inner pending houter hinner =>
      cases Option.some.inj hhead
      exact ⟨outer, inner, rfl, hinner⟩
  · rintro ⟨outer, inner, rfl, hinner⟩
    have hread := h.read
    rw [Nesting.read_append] at hread
    obtain ⟨nesting, _, hread⟩ := Option.bind_eq_some_iff.1 hread
    have hopened : Nesting.read nesting ('(' :: inner) = some ⟨.round :: nesting.pending, false⟩ :=
      hinner.read _
    rw [hopened] at hread
    cases hread
    rfl

end Leaves

/-! ### Marks -/

/-- A word character is none of some signs that words are not made of. -/
theorem not_mem_of_isWordChar {c : Char} {signs : List Char} (hword : isWordChar c = true)
    (hsigns : signs.all (fun sign => !isWordChar sign) = true) : c ∉ signs := by
  intro hmem
  have hc := List.all_eq_true.1 hsigns c hmem
  rw [hword] at hc
  cases hc

/-- The character of a mark that is always the same character. -/
def Mark.sign? : Mark → Option Char
  | .word | .arrow => none
  | .space => some ' '
  | .opening bracket => some bracket.opening
  | .closing bracket => some bracket.closing
  | .colon => some ':'
  | .dot => some '.'
  | .comma => some ','
  | .question => some '?'
  | .star => some '*'

namespace Mark
variable {c : Char} {mark : Mark}

theorem ofChar?_of_sign (h : mark.sign? = some c) : ofChar? c = some mark := by
  cases mark with
  | word | arrow => cases h
  | opening bracket => cases h; cases bracket <;> rfl
  | closing bracket => cases h; cases bracket <;> rfl
  | _ => cases h; rfl

/-- A character is part of a word, or a sign. -/
theorem ofChar?_cases (h : ofChar? c = some mark) :
    (mark = .word ∧ isWordChar c = true) ∨ mark.sign? = some c := by
  by_cases hc : c ∈ [' ', '(', ')', '<', '>', ':', '.', ',', '?', '*']
  · simp only [List.mem_cons, List.not_mem_nil, or_false] at hc
    rcases hc with rfl | rfl | rfl | rfl | rfl | rfl | rfl | rfl | rfl | rfl <;>
    · cases h
      exact .inr rfl
  · simp only [List.mem_cons, List.not_mem_nil, or_false, not_or] at hc
    simp only [ofChar?, hc, if_false] at h
    split at h
    · next hword =>
      cases h
      exact .inl ⟨rfl, hword⟩
    · cases h

theorem ofChar?_word (h : isWordChar c = true) : ofChar? c = some .word := by
  have hc : c ∉ [' ', '(', ')', '<', '>', ':', '.', ',', '?', '*'] :=
    not_mem_of_isWordChar h (by decide)
  simp only [List.mem_cons, List.not_mem_nil, or_false, not_or] at hc
  simp only [ofChar?, hc, h, if_true, if_false]

theorem ofChar?_hyphen : ofChar? '-' = none := by decide

end Mark

/-- Types are written with marks and hyphens. -/
theorem isTypeChar_iff (c : Char) :
    IsTypeChar c ↔ (∃ mark, Mark.ofChar? c = some mark) ∨ c = '-' := by
  constructor
  · rintro (h | h | h)
    · exact .inl ⟨_, Mark.ofChar?_word (by simp [isWordChar, h])⟩
    · exact .inl ⟨_, Mark.ofChar?_word (by simp [isWordChar, h])⟩
    · have hsigns : ['_', '.', '<', '>', ',', '?', '*', '(', ')', ':', '-', ' '].all
          (fun sign => (Mark.ofChar? sign).isSome || sign == '-') = true := by decide
      have hc := List.all_eq_true.1 hsigns c h
      rwa [Bool.or_eq_true, Option.isSome_iff_exists, beq_iff_eq] at hc
  · rintro (⟨mark, h⟩ | rfl)
    · rcases Mark.ofChar?_cases h with ⟨_, hword⟩ | hsign
      · simp only [isWordChar, Bool.or_eq_true, beq_iff_eq] at hword
        rcases hword with (h | h) | rfl
        · exact .inl h
        · exact .inr (.inl h)
        · exact .inr (.inr (by decide))
      · refine .inr (.inr ?_)
        cases mark with
        | word | arrow => cases hsign
        | opening bracket => cases hsign; cases bracket <;> decide
        | closing bracket => cases hsign; cases bracket <;> decide
        | _ => cases hsign; decide
    · exact .inr (.inr (by decide))

/-- The mark that a text ends in, spaces apart. -/
inductive EndsIn (text : List Char) : Option Mark → Prop
  | nothing (h : last? text = none) : EndsIn text none
  | arrow (h : EndsInArrow text) : EndsIn text (some .arrow)
  | mark {c : Char} {mark : Mark} (h : last? text = some c) (harrow : ¬ EndsInArrow text)
    (hmark : Mark.ofChar? c = some mark) : EndsIn text (some mark)

namespace EndsIn
variable {text : List Char} {last : Option Mark}

theorem concat_space (h : EndsIn text last) : EndsIn (text ++ [' ']) last := by
  have hvisible := visible_concat_space text
  cases h with
  | nothing h => exact .nothing (by rwa [last?_concat_space])
  | arrow h => exact .arrow (by rwa [EndsInArrow, hvisible])
  | mark h harrow hmark =>
    exact .mark (by rwa [last?_concat_space]) (by rwa [EndsInArrow, hvisible]) hmark

theorem word_iff (h : EndsIn text last) : last = some .word ↔ EndsInWord text := by
  constructor
  · rintro rfl
    cases h with
    | mark h _ hmark =>
      rcases Mark.ofChar?_cases hmark with ⟨_, hword⟩ | hsign
      · exact ⟨_, h, hword⟩
      · cases hsign
  · rintro ⟨c, hc, hword⟩
    cases h with
    | nothing h =>
      rw [hc] at h
      cases h
    | arrow h =>
      rw [h.last?_eq] at hc
      cases hc
      exact absurd hword (by decide)
    | mark h _ hmark =>
      rw [hc] at h
      cases h
      rw [← hmark, Mark.ofChar?_word hword]

theorem sign_iff (h : EndsIn text last) (mark : Mark) {c : Char} (hsign : mark.sign? = some c) :
    last = some mark ↔ last? text = some c ∧ ¬ EndsInArrow text := by
  constructor
  · rintro rfl
    cases h with
    | arrow h => cases hsign
    | mark h harrow hmark =>
      rcases Mark.ofChar?_cases hmark with ⟨rfl, _⟩ | hsign'
      · cases hsign
      · rw [hsign] at hsign'
        cases hsign'
        exact ⟨h, harrow⟩
  · rintro ⟨hc, harrow⟩
    cases h with
    | nothing h =>
      rw [hc] at h
      cases h
    | arrow h => exact absurd h harrow
    | mark h _ hmark =>
      rw [hc] at h
      cases h
      rw [← hmark, Mark.ofChar?_of_sign hsign]

/-- Only an angle can be mistaken for the end of an arrow. -/
theorem sign_iff_of_ne (h : EndsIn text last) (mark : Mark) {c : Char}
    (hsign : mark.sign? = some c) (hc : c ≠ '>') : last = some mark ↔ last? text = some c := by
  rw [h.sign_iff mark hsign]
  exact and_iff_left_of_imp fun hlast => not_endsInArrow_of_last? hlast hc

end EndsIn

/-! ### What a reader remembers -/

/-- What a reader remembers is true of the text that it has read. -/
structure Stands (reader : TypeReader) (front : List Char) : Prop where
  pending : Leaves front reader.pending
  last : EndsIn front reader.last
  spaced : reader.spaced = true ↔ front.getLast? = some ' '
  /-- No arrow has been read by half. -/
  whole : front.getLast? ≠ some '-'

namespace Stands
open TypeReader
variable {reader : TypeReader} {front : List Char}

theorem start : Stands {} [] where
  pending := .closed .nil
  last := .nothing rfl
  spaced := by simp
  whole := by simp

theorem concat (h : Stands reader front) {c : Char} {mark : Mark} {pending : List Bracket}
    (hc : c ≠ ' ') (hmark : Mark.ofChar? c = some mark) (hpending : Leaves (front ++ [c]) pending) :
    Stands ⟨pending, some mark, false⟩ (front ++ [c]) where
  pending := hpending
  last := by
    refine .mark (last?_concat hc front) (fun harrow => ?_) hmark
    exact h.whole ((endsInArrow_concat hc front).1 harrow).2
  spaced := by simp [hc]
  whole := by
    rw [List.getLast?_concat]
    intro hhyphen
    rw [Option.some.inj hhyphen, Mark.ofChar?_hyphen] at hmark
    cases hmark

theorem arrow (h : Stands reader front) : Stands (reader.next .arrow) (front ++ ['-', '>']) where
  pending := h.pending.append (.arrow .nil)
  last := by
    rw [List.append_cons]
    exact .arrow ((endsInArrow_concat (by decide) _).2 ⟨rfl, List.getLast?_concat⟩)
  spaced := by
    rw [List.append_cons, List.getLast?_concat]
    simp [TypeReader.next]
  whole := by
    rw [List.append_cons, List.getLast?_concat]
    decide

/-- One mark keeps what a reader remembers true. -/
theorem next (h : Stands reader front) {c : Char} {mark : Mark}
    (hmark : Mark.ofChar? c = some mark) (haccepts : reader.accepts mark = true) :
    Stands (reader.next mark) (front ++ [c]) := by
  have hplain (hc : c ∉ ['(', ')', '<', '>', '-']) : Leaves (front ++ [c]) reader.pending :=
    h.pending.append (.plain hc .nil)
  rcases Mark.ofChar?_cases hmark with ⟨rfl, hword⟩ | hsign
  · have hc : c ∉ [' ', '(', ')', '<', '>', '-'] := not_mem_of_isWordChar hword (by decide)
    exact h.concat (List.ne_of_not_mem_cons hc) hmark (hplain (List.not_mem_of_not_mem_cons hc))
  · cases mark with
    | word | arrow => cases hsign
    | space =>
      cases hsign
      refine ⟨hplain (by decide), h.last.concat_space, ?_, ?_⟩
      · simp [TypeReader.next]
      · rw [List.getLast?_concat]
        decide
    | opening bracket =>
      cases hsign
      exact h.concat (by cases bracket <;> decide) hmark (h.pending.opening bracket)
    | closing bracket =>
      cases hsign
      obtain ⟨tail, htail⟩ := List.head?_eq_some_iff.1 (beq_iff_eq.1 haccepts)
      have hpending := h.pending
      rw [htail] at hpending
      refine h.concat (by cases bracket <;> decide) hmark ?_
      rw [htail]
      exact hpending.closing
    | colon | dot | comma | question | star =>
      cases hsign
      exact h.concat (by decide) hmark (hplain (by decide))

/-- So a run does. -/
theorem reads {after : TypeReader} {text : List Char} (h : Stands reader front)
    (hreads : Reads reader text after) : Stands after (front ++ text) := by
  induction hreads generalizing front with
  | done reader => rwa [List.append_nil]
  | arrow _ _ ih =>
    have hrest := ih h.arrow
    rwa [List.append_assoc] at hrest
  | mark hmark haccepts _ ih =>
    have hrest := ih (h.next hmark haccepts)
    rwa [List.append_assoc] at hrest

end Stands

/-! ### What may stand where -/

/-- What is asked of a character between the text in front of it and the text behind it. -/
structure Fits (front : List Char) (c : Char) (back : List Char) : Prop where
  hyphen : c = '-' → back.head? = some '>' ∧ last? front = some ')'
  angle : c = '<' → EndsInWord front
  round : c = '(' → ¬ EndsInWord front ∧ (∀ d ∈ [')', '.', '?', '*'], last? front ≠ some d) ∧
    ¬ EndsInAngle front
  colon : c = ':' → EndsInWord front ∧ OpensRound front
  word : isWordChar c = true → front.getLast? = some ' ' → ¬ EndsInWord front

/-- Every character of a text fits where it stands, behind some text in front. -/
def AllFit (front : List Char) : List Char → Prop
  | [] => True
  | c :: rest => Fits front c rest ∧ AllFit (front ++ [c]) rest

theorem allFit_iff (front text : List Char) :
    AllFit front text ↔
      ∀ middle c back, text = middle ++ c :: back → Fits (front ++ middle) c back := by
  induction text generalizing front with
  | nil => simp [AllFit]
  | cons first rest ih =>
    rw [AllFit, ih]
    constructor
    · rintro ⟨hfirst, hrest⟩ middle c back hsplit
      cases middle with
      | nil =>
        cases hsplit
        rwa [List.append_nil]
      | cons head middle =>
        cases hsplit
        have hfits := hrest middle c back rfl
        rwa [List.append_assoc] at hfits
    · intro h
      refine ⟨?_, fun middle c back hsplit => ?_⟩
      · have hfits := h [] first rest rfl
        rwa [List.append_nil] at hfits
      · rw [List.append_assoc]
        exact h (first :: middle) c back (by rw [hsplit, List.cons_append])

/-- Only four signs and the characters of words have rules of their own. -/
theorem fits_of_not_mem {c : Char} (hc : c ∉ ['-', '<', '(', ':']) {front : List Char}
    (hword : isWordChar c = true → front.getLast? = some ' ' → ¬ EndsInWord front)
    (back : List Char) : Fits front c back := by
  simp only [List.mem_cons, List.not_mem_nil, or_false, not_or] at hc
  obtain ⟨hhyphen, hangle, hround, hcolon⟩ := hc
  exact ⟨fun h => absurd h hhyphen, fun h => absurd h hangle, fun h => absurd h hround,
    fun h => absurd h hcolon, hword⟩

/-- Most characters may stand anywhere. -/
theorem fits_plain {c : Char} (hc : c ∉ ['-', '<', '(', ':']) (hword : isWordChar c = false)
    (front back : List Char) : Fits front c back := by
  refine fits_of_not_mem hc (fun h => ?_) back
  rw [hword] at h
  cases h

/-- A parenthesis may come next behind anything but the end of a type and a dot. -/
theorem TypeReader.accepts_round (reader : TypeReader) :
    reader.accepts (.opening .round) = true ↔
      reader.last ≠ some .word ∧ reader.last ≠ some (.closing .round) ∧
      reader.last ≠ some .dot ∧ reader.last ≠ some .question ∧ reader.last ≠ some .star ∧
      reader.last ≠ some (.closing .angle) := by
  obtain ⟨pending, last, spaced⟩ := reader
  cases last with
  | none => simp [accepts]
  | some mark =>
    cases mark with
    | closing bracket => cases bracket <;> simp [accepts]
    | _ => simp [accepts]

namespace Stands
open TypeReader
variable {reader : TypeReader} {front : List Char}

theorem accepts_arrow_iff (h : Stands reader front) (back : List Char) :
    reader.accepts .arrow = true ↔ Fits front '-' ('>' :: back) := by
  have hclosed := h.last.sign_iff_of_ne (.closing .round) rfl (by decide)
  rw [accepts, beq_iff_eq, hclosed]
  constructor
  · intro hlast
    exact ⟨fun _ => ⟨rfl, hlast⟩, nofun, nofun, nofun, fun hword => absurd hword (by decide)⟩
  · intro hfits
    exact (hfits.hyphen rfl).2

theorem accepts_word_iff (h : Stands reader front) {c : Char} (hword : isWordChar c = true)
    (back : List Char) : reader.accepts .word = true ↔ Fits front c back := by
  have haccepts : reader.accepts .word = true ↔
      (front.getLast? = some ' ' → ¬ EndsInWord front) := by
    rw [accepts, ← h.spaced, ← h.last.word_iff]
    simp only [Bool.not_eq_true', Bool.and_eq_false_iff, beq_eq_false_iff_ne]
    cases reader.spaced <;> simp
  rw [haccepts]
  constructor
  · intro hspaced
    exact fits_of_not_mem (not_mem_of_isWordChar hword (by decide)) (fun _ => hspaced) back
  · intro hfits
    exact hfits.word hword

theorem accepts_angle_iff (h : Stands reader front) (back : List Char) :
    reader.accepts (.opening .angle) = true ↔ Fits front '<' back := by
  rw [accepts, beq_iff_eq, h.last.word_iff]
  constructor
  · intro hlast
    exact ⟨nofun, fun _ => hlast, nofun, nofun, fun hword => absurd hword (by decide)⟩
  · intro hfits
    exact hfits.angle rfl

theorem accepts_round_iff (h : Stands reader front) (back : List Char) :
    reader.accepts (.opening .round) = true ↔ Fits front '(' back := by
  have hsign (mark : Mark) {c : Char} (hsign : mark.sign? = some c) (hc : c ≠ '>') :=
    h.last.sign_iff_of_ne mark hsign hc
  have hangle := h.last.sign_iff (.closing .angle) rfl
  rw [accepts_round, Ne, h.last.word_iff, Ne, hsign (.closing .round) rfl (by decide), Ne,
    hsign .dot rfl (by decide), Ne, hsign .question rfl (by decide), Ne,
    hsign .star rfl (by decide), Ne, hangle]
  constructor
  · rintro ⟨hword, hround, hdot, hquestion, hstar, hangle⟩
    refine ⟨nofun, nofun, fun _ => ⟨hword, ?_, hangle⟩, nofun, fun h => absurd h (by decide)⟩
    simp only [List.forall_mem_cons, List.not_mem_nil, false_imp_iff, implies_true, and_true]
    exact ⟨hround, hdot, hquestion, hstar⟩
  · intro hfits
    obtain ⟨hword, hothers, hangle⟩ := hfits.round rfl
    exact ⟨hword, hothers _ (by decide), hothers _ (by decide), hothers _ (by decide),
      hothers _ (by decide), hangle⟩

theorem accepts_colon_iff (h : Stands reader front) (back : List Char) :
    reader.accepts .colon = true ↔ Fits front ':' back := by
  rw [accepts, Bool.and_eq_true, beq_iff_eq, beq_iff_eq, h.last.word_iff,
    h.pending.head?_eq_round_iff]
  constructor
  · intro hplace
    exact ⟨nofun, nofun, nofun, fun _ => hplace, fun hword => absurd hword (by decide)⟩
  · intro hfits
    exact hfits.colon rfl

/-- A mark is accepted just where its character fits and, if it closes a bracket, that
bracket is the innermost open one. -/
theorem accepts_iff (h : Stands reader front) {c : Char} {mark : Mark}
    (hmark : Mark.ofChar? c = some mark) (back : List Char) :
    reader.accepts mark = true ↔
      Fits front c back ∧
        ∀ bracket, mark = .closing bracket → reader.pending.head? = some bracket := by
  rcases Mark.ofChar?_cases hmark with ⟨rfl, hword⟩ | hsign
  · rw [h.accepts_word_iff hword back]
    exact (and_iff_left nofun).symm
  · cases mark with
    | word | arrow => cases hsign
    | opening bracket =>
      cases hsign
      cases bracket with
      | round => exact (h.accepts_round_iff back).trans (and_iff_left nofun).symm
      | angle => exact (h.accepts_angle_iff back).trans (and_iff_left nofun).symm
    | closing bracket =>
      cases hsign
      have hplace : Fits front bracket.closing back := by
        cases bracket <;> exact fits_plain (by decide) (by decide) _ _
      rw [accepts, beq_iff_eq]
      constructor
      · intro hhead
        refine ⟨hplace, ?_⟩
        rintro _ ⟨⟩
        exact hhead
      · rintro ⟨_, hhead⟩
        exact hhead bracket rfl
    | colon =>
      cases hsign
      exact (h.accepts_colon_iff back).trans (and_iff_left nofun).symm
    | space | dot | comma | question | star =>
      cases hsign
      exact iff_of_true rfl ⟨fits_plain (by decide) (by decide) front back, nofun⟩

end Stands

/-- A reader of brackets goes on just if no bracket is closed but the innermost open one. -/
theorem exists_next?_iff {c : Char} {mark : Mark} (hmark : Mark.ofChar? c = some mark)
    (pending : List Bracket) :
    (∃ after, Nesting.next? ⟨pending, false⟩ c = some after) ↔
      ∀ bracket, mark = .closing bracket → pending.head? = some bracket := by
  rcases Mark.ofChar?_cases hmark with ⟨rfl, hword⟩ | hsign
  · have hc : c ∉ Nesting.signs := not_mem_of_isWordChar hword (by decide)
    exact iff_of_true ⟨_, Nesting.next?_plain hc pending⟩ (by rintro _ ⟨⟩)
  · cases mark with
    | word | arrow => cases hsign
    | opening bracket =>
      cases hsign
      refine iff_of_true ?_ (by rintro _ ⟨⟩)
      cases bracket <;> exact ⟨_, rfl⟩
    | closing bracket =>
      cases hsign
      have hnext : Nesting.next? ⟨pending, false⟩ bracket.closing =
          Nesting.close? ⟨pending, false⟩ bracket := by
        cases bracket <;> rfl
      rw [hnext, Nesting.close?]
      split
      · next hhead =>
        refine iff_of_true ⟨_, rfl⟩ ?_
        rintro _ ⟨⟩
        exact hhead
      · next hhead => exact iff_of_false (by rintro ⟨_, ⟨⟩⟩) fun h => hhead (h bracket rfl)
    | colon | space | dot | comma | question | star =>
      cases hsign
      exact iff_of_true ⟨_, rfl⟩ (by rintro _ ⟨⟩)

/-! ### Texts as a whole -/

namespace TypeReader
variable {reader after : TypeReader}

theorem reads_nil_iff : Reads reader [] after ↔ after = reader := by
  constructor
  · rintro ⟨⟩
    rfl
  · rintro rfl
    exact .done after

theorem reads_arrow_iff {rest : List Char} :
    Reads reader ('-' :: '>' :: rest) after ↔
      reader.accepts .arrow = true ∧ Reads (reader.next .arrow) rest after := by
  constructor
  · intro h
    cases h with
    | arrow haccepts hrest => exact ⟨haccepts, hrest⟩
    | mark hmark => cases Mark.ofChar?_hyphen.symm.trans hmark
  · rintro ⟨haccepts, hrest⟩
    exact .arrow haccepts hrest

theorem reads_cons_iff {c : Char} {mark : Mark} {rest : List Char}
    (hmark : Mark.ofChar? c = some mark) :
    Reads reader (c :: rest) after ↔
      reader.accepts mark = true ∧ Reads (reader.next mark) rest after := by
  constructor
  · intro h
    cases h with
    | arrow => cases Mark.ofChar?_hyphen.symm.trans hmark
    | mark hmark' haccepts hrest =>
      rw [hmark] at hmark'
      cases hmark'
      exact ⟨haccepts, hrest⟩
  · rintro ⟨haccepts, hrest⟩
    exact .mark hmark haccepts hrest

/-- Characters that are read one after the other have marks, and these are read. -/
theorem Reads.read {text : List Char} (h : Reads reader text after) :
    ∃ marks, marks? text = some marks ∧ reader.read marks = some after := by
  induction h with
  | done reader => exact ⟨[], rfl, rfl⟩
  | arrow haccepts _ ih =>
    obtain ⟨marks, hmarks, hread⟩ := ih
    refine ⟨.arrow :: marks, ?_, ?_⟩
    · rw [marks?, hmarks]
      rfl
    · rw [TypeReader.read, if_pos haccepts, hread]
  | @mark _ _ c mark _ hmark haccepts _ ih =>
    obtain ⟨marks, hmarks, hread⟩ := ih
    refine ⟨mark :: marks, ?_, ?_⟩
    · rw [marks?, hmark, hmarks]
      rintro _ rfl _
      cases Mark.ofChar?_hyphen.symm.trans hmark
    · rw [TypeReader.read, if_pos haccepts, hread]

end TypeReader

theorem isTypeReference_iff_reads (type : String) :
    isTypeReference type = true ↔
      (∃ c, type.toList.head? = some c ∧ isTypeStart c = true) ∧
        ∃ after, TypeReader.Reads {} type.toList after ∧ after.complete = true := by
  unfold isTypeReference
  split
  · next hnil => simp [hnil]
  · next first rest htype =>
    rw [htype, Bool.and_eq_true]
    refine and_congr (by simp) ?_
    constructor
    · intro h
      split at h
      · next after hafter =>
        obtain ⟨marks, hmarks, hread⟩ := Option.bind_eq_some_iff.1 hafter
        exact ⟨after, TypeReader.reads_of_read hmarks hread, h⟩
      · cases h
    · rintro ⟨after, hreads, hcomplete⟩
      obtain ⟨marks, hmarks, hread⟩ := hreads.read
      rw [hmarks, Option.bind_some, hread]
      exact hcomplete

/-- How the text of a type ends. -/
def Finishes (text : List Char) : Prop :=
  EndsInWord text ∨ (∃ c ∈ [')', '?', '*'], last? text = some c) ∨ EndsInAngle text

theorem TypeReader.complete_iff (reader : TypeReader) :
    reader.complete = true ↔ reader.pending = [] ∧
      (reader.last = some .word ∨ reader.last = some (.closing .round) ∨
        reader.last = some .question ∨ reader.last = some .star ∨
        reader.last = some (.closing .angle)) := by
  rw [complete, Bool.and_eq_true, List.isEmpty_iff]
  refine and_congr_right fun _ => ?_
  obtain ⟨pending, last, spaced⟩ := reader
  cases last with
  | none => simp
  | some mark =>
    cases mark with
    | closing bracket => cases bracket <;> simp
    | _ => simp

/-- A type may end just where nothing is open and its text may end. -/
theorem Stands.complete_iff {reader : TypeReader} {front : List Char} (h : Stands reader front) :
    reader.complete = true ↔ reader.pending = [] ∧ Finishes front := by
  have hsign (mark : Mark) {c : Char} (hsign : mark.sign? = some c) (hc : c ≠ '>') :=
    h.last.sign_iff_of_ne mark hsign hc
  rw [TypeReader.complete_iff, h.last.word_iff, hsign (.closing .round) rfl (by decide),
    hsign .question rfl (by decide), hsign .star rfl (by decide),
    h.last.sign_iff (.closing .angle) rfl]
  simp only [Finishes, List.mem_cons, List.not_mem_nil, or_false, exists_eq_or_imp,
    exists_eq_left, EndsInAngle, Bracket.closing, or_assoc]

theorem allFit_arrow_iff (front rest : List Char) :
    AllFit front ('-' :: '>' :: rest) ↔
      Fits front '-' ('>' :: rest) ∧ AllFit (front ++ ['-', '>']) rest := by
  have hangle : Fits (front ++ ['-']) '>' rest := fits_plain (by decide) (by decide) _ _
  rw [AllFit, AllFit, List.append_assoc]
  exact and_congr_right fun _ => and_iff_right hangle

/-- From any point of a text to its end: a text is read to a point where a type may end just
if its characters are those of types and fit, its brackets close those that are open, and it
ends as types do. -/
theorem reads_iff {reader : TypeReader} {front text : List Char} (h : Stands reader front) :
    (∃ after, TypeReader.Reads reader text after ∧ after.complete = true) ↔
      (∀ c ∈ text, IsTypeChar c) ∧ AllFit front text ∧
        Nesting.read ⟨reader.pending, false⟩ text = some {} ∧ Finishes (front ++ text) := by
  induction hlength : text.length using Nat.strongRecOn generalizing reader front text with
  | ind length ih =>
    match text, hlength with
    | [], _ =>
      simp only [TypeReader.reads_nil_iff, exists_eq_left, h.complete_iff, List.not_mem_nil,
        false_imp_iff, implies_true, AllFit, Nesting.read, Option.some.injEq, true_and,
        Nesting.mk.injEq, and_true, List.append_nil]
    | c :: rest, hlength =>
      by_cases harrow : c = '-' ∧ rest.head? = some '>'
      · obtain ⟨rfl, hhead⟩ := harrow
        obtain ⟨rest, rfl⟩ := List.head?_eq_some_iff.1 hhead
        have hrest := ih rest.length (by simp only [← hlength, List.length_cons]; omega) h.arrow rfl
        have hread : Nesting.read ⟨reader.pending, false⟩ ('-' :: '>' :: rest) =
            Nesting.read ⟨(reader.next .arrow).pending, false⟩ rest := rfl
        simp only [TypeReader.reads_arrow_iff, and_assoc, exists_and_left, hrest,
          h.accepts_arrow_iff rest, allFit_arrow_iff, hread, List.forall_mem_cons,
          List.append_assoc, List.cons_append, List.nil_append]
        constructor
        · rintro ⟨hfits, hchars, hplaces, hbrackets, hfinish⟩
          exact ⟨.inr (.inr (by decide)), .inr (.inr (by decide)), hchars, hfits, hplaces,
            hbrackets, hfinish⟩
        · rintro ⟨_, _, hchars, hfits, hplaces, hbrackets, hfinish⟩
          exact ⟨hfits, hchars, hplaces, hbrackets, hfinish⟩
      · cases hmark : Mark.ofChar? c with
        | none =>
          -- A character without a mark is a hyphen or has no place in a type.
          refine iff_of_false ?_ ?_
          · rintro ⟨after, hreads, _⟩
            cases hreads with
            | arrow => exact harrow ⟨rfl, rfl⟩
            | mark hmark' => cases hmark.symm.trans hmark'
          · rintro ⟨hchars, hplaces, _⟩
            rcases (isTypeChar_iff c).1 (hchars c (List.mem_cons_self ..)) with ⟨mark, hmark'⟩ | hc
            · cases hmark.symm.trans hmark'
            · exact harrow ⟨hc, (hplaces.1.hyphen hc).1⟩
        | some mark =>
          simp only [TypeReader.reads_cons_iff hmark, and_assoc, exists_and_left]
          by_cases haccepts : reader.accepts mark = true
          · have hrest := ih rest.length (by simp only [← hlength, List.length_cons]; omega)
              (h.next hmark haccepts) rfl
            have hnext := TypeReader.next?_of_accepts hmark haccepts
            have hread : Nesting.read ⟨reader.pending, false⟩ (c :: rest) =
                Nesting.read ⟨(reader.next mark).pending, false⟩ rest := by
              rw [Nesting.read, hnext, Option.bind_some]
            have hfits := ((h.accepts_iff hmark rest).1 haccepts).1
            have hchar : IsTypeChar c := (isTypeChar_iff c).2 (.inl ⟨mark, hmark⟩)
            simp only [haccepts, true_and, hrest, hread, AllFit, hfits, List.forall_mem_cons,
              hchar, List.append_assoc, List.singleton_append]
          · refine iff_of_false (fun hreads => haccepts hreads.1) ?_
            rintro ⟨_, hplaces, hbrackets, _⟩
            rw [Nesting.read] at hbrackets
            obtain ⟨after, hafter, _⟩ := Option.bind_eq_some_iff.1 hbrackets
            exact haccepts ((h.accepts_iff hmark rest).2
              ⟨hplaces.1, (exists_next?_iff hmark _).1 ⟨after, hafter⟩⟩)

/-- There is nothing to strip from a type. -/
theorem strip_of_isTypeReference {type : String} (h : isTypeReference type = true) :
    strip type = type := by
  have hreads := ((isTypeReference_iff_reads type).1 h).2
  have hchars := ((reads_iff Stands.start).1 hreads).1
  have hbacktick : ¬ IsTypeChar backtick := by
    rintro (hc | hc | hc) <;> exact absurd hc (by decide)
  rw [← String.toList_inj, toList_strip, List.filter_eq_self]
  intro c hc
  refine bne_iff_ne.2 ?_
  rintro rfl
  exact hbacktick (hchars _ hc)

theorem TypeRules.allFit {text : List Char} (h : TypeRules text) : AllFit [] text := by
  rw [allFit_iff]
  intro front c back hsplit
  rw [List.nil_append]
  refine ⟨?_, ?_, ?_, ?_, ?_⟩
  · rintro rfl
    exact h.hyphen front back hsplit
  · rintro rfl
    exact h.angle front back hsplit
  · rintro rfl
    exact h.round front back hsplit
  · rintro rfl
    exact h.colon front back hsplit
  · rintro hword hspace ⟨a, ha, hword'⟩
    obtain ⟨spaces, hspaces, hfront⟩ := exists_spaces front
    obtain ⟨outer, houter⟩ := List.getLast?_eq_some_iff.1 ha
    rw [houter, List.append_assoc, List.singleton_append] at hfront
    have hnone := h.words outer a spaces c back
      (by rw [hsplit, hfront, List.append_assoc, List.cons_append]) hword' hword hspaces
    -- Without spaces in between, the word in front would end in a space.
    rw [hfront, hnone, List.getLast?_concat] at hspace
    rw [Option.some.inj hspace] at hword'
    exact absurd hword' (by decide)

theorem words_of_allFit {text : List Char} (h : AllFit [] text) {front spaces back : List Char}
    {a b : Char} (hsplit : text = front ++ a :: (spaces ++ b :: back))
    (ha : isWordChar a = true) (hb : isWordChar b = true) (hspaces : ∀ c ∈ spaces, c = ' ') :
    spaces = [] := by
  refine Classical.byContradiction fun hsome => ?_
  have hfits := (allFit_iff [] text).1 h (front ++ a :: spaces) b back
    (by rw [hsplit, List.append_assoc, List.cons_append])
  have hlast : (front ++ a :: spaces).getLast? = some ' ' := by
    rw [List.append_cons, List.getLast?_append_of_ne_nil _ hsome, List.getLast?_eq_some_getLast hsome,
      hspaces _ (List.getLast_mem hsome)]
  have hspace : a ≠ ' ' := by
    rintro rfl
    exact absurd ha (by decide)
  refine hfits.word hb hlast ⟨a, ?_, ha⟩
  rw [List.nil_append, List.append_cons, last?, visible_append_spaces hspaces]
  exact last?_concat hspace front

/-- The rules say that every character fits where it stands. -/
theorem typeRules_iff (text : List Char) :
    TypeRules text ↔
      (∃ c, text.head? = some c ∧ (Unicode.isLetter c = true ∨ c = '_' ∨ c = '(')) ∧
        (∀ c ∈ text, IsTypeChar c) ∧ AllFit [] text ∧ WellNested text ∧ Finishes text := by
  constructor
  · intro h
    exact ⟨h.start, h.characters, h.allFit, h.nested, h.finish⟩
  · rintro ⟨hstart, hchars, hplaces, hnested, hfinish⟩
    have hfits := (allFit_iff [] text).1 hplaces
    refine ⟨hstart, hchars, ?_, hnested, ?_, ?_, ?_, ?_, hfinish⟩
    · exact fun front back hsplit => (hfits front _ back hsplit).hyphen rfl
    · exact fun front back hsplit => (hfits front _ back hsplit).angle rfl
    · exact fun front back hsplit => (hfits front _ back hsplit).round rfl
    · exact fun front back hsplit => (hfits front _ back hsplit).colon rfl
    · exact fun front a spaces b back hsplit ha hb hspaces =>
        words_of_allFit hplaces hsplit ha hb hspaces

/-- **A text has the form of a type just if it keeps the rules.** -/
theorem isTypeReference_iff (type : String) :
    isTypeReference type = true ↔ TypeRules type.toList := by
  have hstart (c : Char) : isTypeStart c = true ↔
      (Unicode.isLetter c = true ∨ c = '_' ∨ c = '(') := by
    simp only [isTypeStart, isNameStart, Bool.or_eq_true, beq_iff_eq, or_assoc]
  have hreads : (∃ after, TypeReader.Reads {} type.toList after ∧ after.complete = true) ↔ _ :=
    reads_iff Stands.start
  rw [isTypeReference_iff_reads, typeRules_iff, List.nil_append] at *
  simp only [hstart]
  refine and_congr_right fun _ => ⟨fun h => ?_, fun h => ?_⟩
  · obtain ⟨hchars, hplaces, _, hfinish⟩ := hreads.1 h
    obtain ⟨after, hafter, hcomplete⟩ := h
    have hstands := Stands.start.reads hafter
    rw [List.nil_append] at hstands
    have hleaves := hstands.pending
    rw [(hstands.complete_iff.1 hcomplete).1] at hleaves
    exact ⟨hchars, hplaces, hleaves.wellNested, hfinish⟩
  · obtain ⟨hchars, hplaces, hnested, hfinish⟩ := h
    exact hreads.2 ⟨hchars, hplaces, hnested.read [], hfinish⟩

/-- A label among type arguments is refused: the bracket around it is no parenthesis. -/
example : isTypeReference "(A<b: C>) -> D" = false := by decide +kernel

end FactoryGen.Kotlin

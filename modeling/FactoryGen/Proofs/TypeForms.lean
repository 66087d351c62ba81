import FactoryGen.Proofs.Gate
import FactoryGen.Proofs.TypeRules

/-! Types as they are written.

`TypeTree` is what a type can be: a name, with or without arguments, a type that may be null,
a type between parentheses, a function. `TypeTree.text` writes it as the compiler's metadata
does. Whatever is written so is accepted as a type, and a parameter that has it is not refused
for it (`TypeTree.accepted`).

What a reader thinks of a type depends on what is open around it and on what it read last, so
the induction is on more than acceptance: wherever a type may begin, a reader goes over it,
and is then behind a type, with the same brackets open (`TypeReader.Takes`). -/
namespace FactoryGen.Kotlin

/-! ### Trees -/

/-- A word: a letter or an underscore, and what names go on with. -/
structure Word where
  text : String
  isWord : ∃ first rest, text.toList = first :: rest ∧ isNameStart first = true ∧
    ∀ c ∈ rest, isWordChar c = true

/-- Words with dots between them. -/
structure DottedName where
  first : Word
  others : List Word

def DottedName.text (name : DottedName) : String :=
  ".".intercalate (name.first.text :: name.others.map Word.text)

mutual

/-- The forms of types. -/
inductive TypeTree where
  | named (name : DottedName)
  /-- A name with arguments, of which there is at least one. -/
  | generic (name : DottedName) (first : TypeArgument) (others : List TypeArgument)
  | nullable (type : TypeTree)
  | parenthesized (type : TypeTree)
  | function (parameters : List TypeParameter) (result : TypeTree)

/-- An argument of a type: a type, or a star for any. -/
inductive TypeArgument where
  | star
  | type (type : TypeTree)

/-- A parameter of a function type, with or without a label. -/
inductive TypeParameter where
  | plain (type : TypeTree)
  | labelled (label : Word) (type : TypeTree)

end

mutual

def TypeTree.text : TypeTree → String
  | .named name => name.text
  | .generic name first others =>
    name.text ++ "<" ++ ", ".intercalate (first.text :: argumentTexts others) ++ ">"
  | .nullable type => type.text ++ "?"
  | .parenthesized type => "(" ++ type.text ++ ")"
  | .function parameters result =>
    "(" ++ ", ".intercalate (parameterTexts parameters) ++ ")" ++ " -> " ++ result.text

def TypeArgument.text : TypeArgument → String
  | .star => "*"
  | .type type => type.text

def TypeParameter.text : TypeParameter → String
  | .plain type => type.text
  | .labelled label type => label.text ++ ": " ++ type.text

def argumentTexts : List TypeArgument → List String
  | [] => []
  | argument :: rest => argument.text :: argumentTexts rest

def parameterTexts : List TypeParameter → List String
  | [] => []
  | parameter :: rest => parameter.text :: parameterTexts rest

end

/-! ### Reading -/

/-- Marks that a type can end in. -/
def Mark.endsType : Mark → Bool
  | .word | .closing _ | .question | .star => true
  | _ => false

namespace TypeReader

theorem Reads.trans {reader middle after : TypeReader} {front back : List Char}
    (hfront : Reads reader front middle) (hback : Reads middle back after) :
    Reads reader (front ++ back) after := by
  induction hfront with
  | done => exact hback
  | arrow haccepts _ ih => exact .arrow haccepts (ih hback)
  | mark hmark haccepts _ ih => exact .mark hmark haccepts (ih hback)

/-- Wherever a type may begin inside some brackets, a reader goes over a text and is behind a
type inside the same brackets. -/
def Takes (pending : List Bracket) (text : String) : Prop :=
  ∀ reader : TypeReader, reader.pending = pending → reader.accepts (.opening .round) = true →
    ∃ last, last.endsType = true ∧ Reads reader text.toList ⟨pending, some last, false⟩

variable {pending : List Bracket}

/-! ### Names -/

theorem accepts_word_of_round {reader : TypeReader}
    (h : reader.accepts (.opening .round) = true) : reader.accepts .word = true := by
  have hlast := ((accepts_round reader).1 h).1
  simp only [accepts, beq_eq_false_iff_ne.2 hlast, Bool.false_and, Bool.not_false]

theorem reads_wordChars {chars : List Char} (h : ∀ c ∈ chars, isWordChar c = true) :
    Reads ⟨pending, some .word, false⟩ chars ⟨pending, some .word, false⟩ := by
  induction chars with
  | nil => exact .done _
  | cons c chars ih =>
    obtain ⟨hc, hrest⟩ := List.forall_mem_cons.1 h
    exact .mark (Mark.ofChar?_word hc) rfl (ih hrest)

theorem reads_word {reader : TypeReader} (h : reader.accepts .word = true) (word : Word) :
    Reads reader word.text.toList ⟨reader.pending, some .word, false⟩ := by
  obtain ⟨first, rest, htext, hfirst, hrest⟩ := word.isWord
  rw [htext]
  exact .mark (Mark.ofChar?_word (isWordChar_of_isNameStart hfirst)) h (reads_wordChars hrest)

theorem reads_dottedName {reader : TypeReader} (h : reader.accepts .word = true)
    (name : DottedName) :
    Reads reader name.text.toList ⟨reader.pending, some .word, false⟩ := by
  obtain ⟨first, others⟩ := name
  induction others generalizing reader first with
  | nil =>
    rw [DottedName.text, List.map_nil, String.intercalate_singleton]
    exact reads_word h first
  | cons next others ih =>
    rw [DottedName.text, List.map_cons, String.intercalate_cons_of_ne_nil (List.cons_ne_nil _ _),
      String.toList_append, String.toList_append]
    have hdot : Reads ⟨reader.pending, some .word, false⟩ ".".toList
        ⟨reader.pending, some .dot, false⟩ := .mark rfl rfl (.done _)
    exact ((reads_word h first).trans hdot).trans (ih rfl next)

theorem takes_dottedName (name : DottedName) : Takes pending name.text := by
  rintro reader rfl hready
  exact ⟨.word, rfl, reads_dottedName (accepts_word_of_round hready) name⟩

theorem takes_star : Takes pending "*" := by
  rintro reader rfl hready
  exact ⟨.star, rfl, .mark rfl rfl (.done _)⟩

/-! ### Lists -/

/-- Texts one behind the other, with commas between them, are taken as one. -/
theorem takes_intercalate {items : List String} (hne : items ≠ [])
    (h : ∀ item ∈ items, Takes pending item) : Takes pending (", ".intercalate items) := by
  induction items with
  | nil => exact absurd rfl hne
  | cons item items ih =>
    obtain ⟨hitem, hitems⟩ := List.forall_mem_cons.1 h
    by_cases hnone : items = []
    · rw [hnone, String.intercalate_singleton]
      exact hitem
    · intro reader hpending hready
      obtain ⟨middle, _, hmiddle⟩ := hitem reader hpending hready
      have hcomma : Reads ⟨pending, some middle, false⟩ ", ".toList
          ⟨pending, some .comma, true⟩ := .mark rfl rfl (.mark rfl rfl (.done _))
      obtain ⟨last, hlast, hrest⟩ := ih hnone hitems ⟨pending, some .comma, true⟩ rfl rfl
      refine ⟨last, hlast, ?_⟩
      rw [String.intercalate_cons_of_ne_nil hnone, String.toList_append, String.toList_append]
      exact (hmiddle.trans hcomma).trans hrest

/-! ### Forms -/

theorem takes_generic (name : DottedName) {arguments : String}
    (h : Takes (.angle :: pending) arguments) :
    Takes pending (name.text ++ "<" ++ arguments ++ ">") := by
  rintro reader rfl hready
  have hname := reads_dottedName (accepts_word_of_round hready) name
  have hopen : Reads ⟨reader.pending, some .word, false⟩ "<".toList
      ⟨.angle :: reader.pending, some (.opening .angle), false⟩ := .mark rfl rfl (.done _)
  obtain ⟨last, _, harguments⟩ :=
    h ⟨.angle :: reader.pending, some (.opening .angle), false⟩ rfl rfl
  have hclose : Reads ⟨.angle :: reader.pending, some last, false⟩ ">".toList
      ⟨reader.pending, some (.closing .angle), false⟩ := .mark rfl rfl (.done _)
  refine ⟨.closing .angle, rfl, ?_⟩
  rw [String.toList_append, String.toList_append, String.toList_append]
  exact ((hname.trans hopen).trans harguments).trans hclose

theorem takes_nullable {type : String} (h : Takes pending type) : Takes pending (type ++ "?") := by
  rintro reader rfl hready
  obtain ⟨last, _, htype⟩ := h reader rfl hready
  have hquestion : Reads ⟨reader.pending, some last, false⟩ "?".toList
      ⟨reader.pending, some .question, false⟩ := .mark rfl rfl (.done _)
  refine ⟨.question, rfl, ?_⟩
  rw [String.toList_append]
  exact htype.trans hquestion

/-- Between parentheses, something that is taken there or nothing. -/
theorem reads_parenthesized {reader : TypeReader} {inner : String}
    (hready : reader.accepts (.opening .round) = true)
    (h : inner = "" ∨ Takes (.round :: reader.pending) inner) :
    Reads reader ("(" ++ inner ++ ")").toList
      ⟨reader.pending, some (.closing .round), false⟩ := by
  have hopen : Reads reader "(".toList
      ⟨.round :: reader.pending, some (.opening .round), false⟩ := .mark rfl hready (.done _)
  have hclose (last : Mark) : Reads ⟨.round :: reader.pending, some last, false⟩ ")".toList
      ⟨reader.pending, some (.closing .round), false⟩ := .mark rfl rfl (.done _)
  rw [String.toList_append, String.toList_append]
  rcases h with rfl | h
  · exact (hopen.trans (.done _)).trans (hclose _)
  · obtain ⟨last, _, hinner⟩ :=
      h ⟨.round :: reader.pending, some (.opening .round), false⟩ rfl rfl
    exact (hopen.trans hinner).trans (hclose last)

theorem takes_parenthesized {type : String} (h : Takes (.round :: pending) type) :
    Takes pending ("(" ++ type ++ ")") := by
  rintro reader rfl hready
  exact ⟨.closing .round, rfl, reads_parenthesized hready (.inr h)⟩

theorem takes_function {parameters result : String}
    (hparameters : parameters = "" ∨ Takes (.round :: pending) parameters)
    (hresult : Takes pending result) :
    Takes pending ("(" ++ parameters ++ ")" ++ " -> " ++ result) := by
  rintro reader rfl hready
  have hlist := reads_parenthesized hready hparameters
  have harrow : Reads ⟨reader.pending, some (.closing .round), false⟩ " -> ".toList
      ⟨reader.pending, some .arrow, true⟩ :=
    .mark rfl rfl (.arrow rfl (.mark rfl rfl (.done _)))
  obtain ⟨last, hlast, hrest⟩ := hresult ⟨reader.pending, some .arrow, true⟩ rfl rfl
  refine ⟨last, hlast, ?_⟩
  rw [String.toList_append, String.toList_append]
  exact (hlist.trans harrow).trans hrest

/-- Labels stand directly between parentheses. -/
theorem takes_labelled (label : Word) {type : String} (h : Takes (.round :: pending) type) :
    Takes (.round :: pending) (label.text ++ ": " ++ type) := by
  intro reader hpending hready
  have hlabel := reads_word (accepts_word_of_round hready) label
  rw [hpending] at hlabel
  have hcolon : Reads ⟨.round :: pending, some .word, false⟩ ": ".toList
      ⟨.round :: pending, some .colon, true⟩ := .mark rfl rfl (.mark rfl rfl (.done _))
  obtain ⟨last, hlast, htype⟩ := h ⟨.round :: pending, some .colon, true⟩ rfl rfl
  refine ⟨last, hlast, ?_⟩
  rw [String.toList_append, String.toList_append]
  exact (hlabel.trans hcolon).trans htype

end TypeReader

/-! ### Every tree -/

mutual

/-- A reader goes over the text of a type wherever one may begin. -/
theorem TypeTree.takes (pending : List Bracket) :
    (type : TypeTree) → TypeReader.Takes pending type.text
  | .named name => TypeReader.takes_dottedName name
  | .generic name first others => by
    have hitems : ∀ item ∈ first.text :: argumentTexts others,
        TypeReader.Takes (.angle :: pending) item :=
      List.forall_mem_cons.2 ⟨first.takes _, argumentTexts_take _ others⟩
    exact TypeReader.takes_generic name
      (TypeReader.takes_intercalate (List.cons_ne_nil _ _) hitems)
  | .nullable type => TypeReader.takes_nullable (type.takes pending)
  | .parenthesized type => TypeReader.takes_parenthesized (type.takes _)
  | .function parameters result => by
    have hitems := parameterTexts_take pending parameters
    refine TypeReader.takes_function ?_ (result.takes pending)
    by_cases hnone : parameterTexts parameters = []
    · exact .inl (by rw [hnone]; rfl)
    · exact .inr (TypeReader.takes_intercalate hnone hitems)

theorem TypeArgument.takes (pending : List Bracket) :
    (argument : TypeArgument) → TypeReader.Takes pending argument.text
  | .star => TypeReader.takes_star
  | .type type => type.takes pending

theorem TypeParameter.takes (pending : List Bracket) :
    (parameter : TypeParameter) → TypeReader.Takes (.round :: pending) parameter.text
  | .plain type => type.takes _
  | .labelled label type => TypeReader.takes_labelled label (type.takes _)

theorem argumentTexts_take (pending : List Bracket) :
    (arguments : List TypeArgument) → ∀ text ∈ argumentTexts arguments,
      TypeReader.Takes pending text
  | [] => fun _ hmem => absurd hmem List.not_mem_nil
  | argument :: rest =>
    List.forall_mem_cons.2 ⟨argument.takes pending, argumentTexts_take pending rest⟩

theorem parameterTexts_take (pending : List Bracket) :
    (parameters : List TypeParameter) → ∀ text ∈ parameterTexts parameters,
      TypeReader.Takes (.round :: pending) text
  | [] => fun _ hmem => absurd hmem List.not_mem_nil
  | parameter :: rest =>
    List.forall_mem_cons.2 ⟨parameter.takes pending, parameterTexts_take pending rest⟩

end

/-- A text starts as types do. -/
def StartsType (text : String) : Prop :=
  ∃ c, text.toList.head? = some c ∧ isTypeStart c = true

theorem StartsType.append {text : String} (h : StartsType text) (rest : String) :
    StartsType (text ++ rest) := by
  obtain ⟨c, hhead, hc⟩ := h
  refine ⟨c, ?_, hc⟩
  rw [String.toList_append, List.head?_append, hhead, Option.some_or]

theorem Word.start (word : Word) : StartsType word.text := by
  obtain ⟨first, rest, htext, hfirst, _⟩ := word.isWord
  refine ⟨first, by rw [htext, List.head?_cons], ?_⟩
  rw [isTypeStart, hfirst, Bool.true_or]

theorem DottedName.start (name : DottedName) : StartsType name.text := by
  obtain ⟨first, others⟩ := name
  cases others with
  | nil =>
    rw [DottedName.text, List.map_nil, String.intercalate_singleton]
    exact first.start
  | cons next others =>
    rw [DottedName.text, List.map_cons, String.intercalate_cons_of_ne_nil (List.cons_ne_nil _ _)]
    exact (first.start.append _).append _

theorem TypeTree.start : (type : TypeTree) → StartsType type.text
  | .named name => name.start
  | .generic name _ _ => ((name.start.append _).append _).append _
  | .nullable type => type.start.append _
  | .parenthesized _ => StartsType.append (StartsType.append ⟨'(', rfl, rfl⟩ _) _
  | .function _ _ =>
    StartsType.append (StartsType.append (StartsType.append (StartsType.append ⟨'(', rfl, rfl⟩ _) _)
      _) _

theorem TypeTree.isTypeReference_text (type : TypeTree) : isTypeReference type.text = true := by
  obtain ⟨last, hlast, hreads⟩ := type.takes [] {} rfl rfl
  refine (isTypeReference_iff_reads _).2 ⟨type.start, _, hreads, ?_⟩
  cases last <;> first | rfl | cases hlast

/-- **Every written type is accepted**, and a parameter that has it, whose own name is an
identifier that no parameter in front has, breaks no rule: if its shape is refused, then for
another rule. -/
theorem TypeTree.accepted (type : TypeTree) :
    isTypeReference type.text = true ∧
    ∀ (shape : Shape) (before after : List Parameter) (name : String),
      shape.parameters = before ++ ⟨name, type.text⟩ :: after →
      isIdentifier (strip name) = true →
      strip name ∉ (before.map fun parameter => strip parameter.name) →
      ∀ defect, shape.defect? = some defect →
        ∃ rule, shape.BreaksFirst rule ∧ defect = shape.told rule ∧
          ∀ part, rule ≠ .parameter before.length part := by
  refine ⟨type.isTypeReference_text, ?_⟩
  intro shape before after name hshape hname hfresh defect hdefect
  obtain ⟨rule, hfirst, htold⟩ := Shape.exists_first_of_defect? hdefect
  refine ⟨rule, hfirst, htold, ?_⟩
  rintro part rfl
  have hbroken := (Shape.breaks_parameter_iff hshape part).1 hfirst.broken
  cases part with
  | name => exact Bool.eq_false_iff.1 hbroken hname
  | type =>
    have htext := type.isTypeReference_text
    rw [← strip_of_isTypeReference htext] at htext
    exact Bool.eq_false_iff.1 hbroken htext
  | distinct =>
    obtain ⟨other, hmem, hsame⟩ := hbroken
    exact hfresh (List.mem_map.2 ⟨other, hmem, hsame⟩)

/-- A function type behind another one, with a label, a star and an argument that may be null.
The shape is refused for the parameter behind it. -/
theorem TypeTree.accepted_of_function :
    let word (c : Char) (h : isNameStart c = true) : Word :=
      ⟨String.ofList [c], c, [], String.toList_ofList, h, nofun⟩
    let a : DottedName := ⟨word 'a' (by decide), [word 'B' (by decide)]⟩
    let result : TypeTree :=
      .nullable (.parenthesized (.function [] (.generic a .star [.type (.nullable (.named a))])))
    let type : TypeTree :=
      .function [.labelled (word 'f' (by decide)) result, .plain (.named a)] (.function [] result)
    let shape : Shape := ⟨"A", "p", "B", [⟨"`in`", type.text⟩, ⟨"in", "C;"⟩]⟩
    type.text = "(f: (() -> a.B<*, a.B?>)?, a.B) -> () -> (() -> a.B<*, a.B?>)?" ∧
    isTypeReference type.text = true ∧
    isIdentifier (strip "`in`") = true ∧
    strip "`in`" ∉ ([] : List Parameter).map (fun parameter => strip parameter.name) ∧
    shape.defect? = some (.parameterType "in" "C;") ∧
    ∃ rule, shape.BreaksFirst rule ∧ .parameterType "in" "C;" = shape.told rule ∧
      ∀ part, rule ≠ .parameter 0 part := by
  intro word a result type shape
  have haccepted := type.accepted
  have htext : type.text = "(f: (() -> a.B<*, a.B?>)?, a.B) -> () -> (() -> a.B<*, a.B?>)?" := by
    decide +kernel
  have hdefect : shape.defect? = some (.parameterType "in" "C;") := by
    decide +kernel
  have hname : isIdentifier (strip "`in`") = true := by decide +kernel
  exact ⟨htext, haccepted.1, hname, List.not_mem_nil, hdefect,
    haccepted.2 shape [] [⟨"in", "C;"⟩] "`in`" rfl hname List.not_mem_nil _ hdefect⟩

end FactoryGen.Kotlin

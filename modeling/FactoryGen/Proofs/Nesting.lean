import FactoryGen.Kotlin.TypeReference

/-! How a reader of source text sees brackets and commas.

A `Nesting` is what a reader has to remember from one character to the next: the
brackets that are open, and whether a hyphen makes an arrow of the angle behind it.
With it a text can be read up to the parenthesis that ends it (`enclosed`), or cut at
the commas that stand outside every bracket (`split`). `read_of_isTypeReference` says
that a type leaves no bracket open and closes none that it has not opened: whatever
stands around it, the parenthesis that ends a list is the same with it as without it.
Nothing of the kind holds of commas. -/
namespace FactoryGen.Kotlin

/-- Where a reader of source text stands among brackets. -/
structure Nesting where
  /-- The brackets that are open, the innermost first. -/
  pending : List Bracket := []
  /-- Whether the last character was a hyphen. -/
  hyphen : Bool := false
deriving DecidableEq, Repr

namespace Nesting

/-- The nesting behind a closing bracket, if it closes the innermost one. -/
def close? (nesting : Nesting) (bracket : Bracket) : Option Nesting :=
  if nesting.pending.head? = some bracket then some ⟨nesting.pending.tail, false⟩ else none

/-- The nesting behind a character, unless it closes what is not open. -/
def next? (nesting : Nesting) (c : Char) : Option Nesting :=
  if c = '(' then some ⟨.round :: nesting.pending, false⟩
  else if c = '<' then some ⟨.angle :: nesting.pending, false⟩
  else if c = ')' then nesting.close? .round
  else if c = '>' then
    if nesting.hyphen then some ⟨nesting.pending, false⟩ else nesting.close? .angle
  else some ⟨nesting.pending, c == '-'⟩

def read (nesting : Nesting) : List Char → Option Nesting
  | [] => some nesting
  | c :: rest => (nesting.next? c).bind (·.read rest)

/-- The text in front of the parenthesis that closes one opened before the text. -/
def enclosed (nesting : Nesting) : List Char → Option (List Char)
  | [] => none
  | c :: rest =>
    if c = ')' ∧ nesting.pending = [] then some []
    else (nesting.next? c).bind fun after => (after.enclosed rest).map (c :: ·)

/-- The text cut at the commas outside every bracket, the first piece with what was
read of it before. -/
def split (nesting : Nesting) (before : List Char) : List Char → Option (List (List Char))
  | [] => some [before]
  | c :: rest =>
    (nesting.next? c).bind fun after =>
      if c = ',' ∧ nesting.pending = [] then (after.split [] rest).map (before :: ·)
      else after.split (before ++ [c]) rest

/-- Whether a comma of the text stands outside every bracket. -/
def hasBareComma (nesting : Nesting) : List Char → Bool
  | [] => false
  | c :: rest =>
    (c == ',' && nesting.pending.isEmpty) ||
      match nesting.next? c with
      | some after => after.hasBareComma rest
      | none => false

/-! ### Reading on -/

theorem read_append (nesting : Nesting) (front back : List Char) :
    nesting.read (front ++ back) = (nesting.read front).bind (·.read back) := by
  induction front generalizing nesting with
  | nil => rfl
  | cons c front ih =>
    simp only [List.cons_append, read]
    cases nesting.next? c with
    | none => rfl
    | some after => exact ih after

theorem hasBareComma_append {nesting after : Nesting} {front : List Char}
    (h : nesting.read front = some after) (back : List Char) :
    nesting.hasBareComma (front ++ back) = (nesting.hasBareComma front || after.hasBareComma back) := by
  induction front generalizing nesting with
  | nil =>
    cases h
    rfl
  | cons c front ih =>
    simp only [read] at h
    obtain ⟨middle, hmiddle, hfront⟩ := Option.bind_eq_some_iff.1 h
    simp only [List.cons_append, hasBareComma, hmiddle, ih hfront, Bool.or_assoc]

/-- A text that closes only what it opens does not end the one it stands in. -/
theorem enclosed_append {nesting after : Nesting} {front : List Char}
    (h : nesting.read front = some after) (back : List Char) :
    nesting.enclosed (front ++ back) = (after.enclosed back).map (front ++ ·) := by
  induction front generalizing nesting with
  | nil =>
    cases h
    simp only [List.nil_append, Option.map_id']
  | cons c front ih =>
    simp only [read] at h
    obtain ⟨middle, hmiddle, hfront⟩ := Option.bind_eq_some_iff.1 h
    have hopen : ¬ (c = ')' ∧ nesting.pending = []) := by
      rintro ⟨rfl, hpending⟩
      simp [next?, close?, hpending] at hmiddle
    simp only [List.cons_append, enclosed, if_neg hopen, hmiddle, Option.bind_some, ih hfront,
      Option.map_map, Function.comp_def]

/-- A text without bare commas belongs to one piece. -/
theorem split_append {nesting after : Nesting} {front : List Char}
    (h : nesting.read front = some after) (hbare : nesting.hasBareComma front = false)
    (before back : List Char) :
    nesting.split before (front ++ back) = after.split (before ++ front) back := by
  induction front generalizing nesting before with
  | nil =>
    cases h
    simp only [List.nil_append, List.append_nil]
  | cons c front ih =>
    simp only [read] at h
    obtain ⟨middle, hmiddle, hfront⟩ := Option.bind_eq_some_iff.1 h
    simp only [hasBareComma, hmiddle, Bool.or_eq_false_iff] at hbare
    have hcomma : ¬ (c = ',' ∧ nesting.pending = []) := by
      rintro ⟨rfl, hpending⟩
      rw [hpending] at hbare
      cases hbare.1
    simp only [List.cons_append, split, hmiddle, Option.bind_some, if_neg hcomma]
    rw [ih hfront hbare.2, List.append_assoc]
    rfl

/-- No piece has a bare comma in it. -/
theorem hasBareComma_of_mem_split {nesting : Nesting} {before text : List Char}
    {pieces : List (List Char)} (hread : read {} before = some nesting)
    (hbare : hasBareComma {} before = false) (hsplit : nesting.split before text = some pieces) :
    ∀ piece ∈ pieces, hasBareComma {} piece = false := by
  induction text generalizing nesting before pieces with
  | nil =>
    cases hsplit
    intro piece hmem
    rw [List.mem_singleton.1 hmem]
    exact hbare
  | cons c rest ih =>
    simp only [split] at hsplit
    obtain ⟨after, hafter, hrest⟩ := Option.bind_eq_some_iff.1 hsplit
    split at hrest
    · next hcomma =>
      obtain ⟨others, hothers, rfl⟩ := Option.map_eq_some_iff.1 hrest
      -- Behind a bare comma nothing is open, so the next piece starts afresh.
      have hfresh : after = {} := by
        rw [hcomma.1] at hafter
        simpa [next?, hcomma.2] using hafter.symm
      rw [hfresh] at hothers
      have hrest := ih rfl rfl hothers
      intro piece hmem
      rcases List.mem_cons.1 hmem with rfl | hmem
      · exact hbare
      · exact hrest piece hmem
    · next hcomma =>
      refine ih ?_ ?_ hrest
      · rw [read_append, hread]
        simp only [read, hafter, Option.bind_some]
      · have hsingle : nesting.hasBareComma [c] = false := by
          simpa [hasBareComma, hafter] using hcomma
        rw [hasBareComma_append hread, hbare, hsingle]
        rfl

/-! ### Texts of words -/

/-- The characters that mean something to a reader of lists. -/
def signs : List Char := ['(', ')', '<', '>', '-', ',']

theorem next?_plain {c : Char} (h : c ∉ signs) (pending : List Bracket) :
    next? ⟨pending, false⟩ c = some ⟨pending, false⟩ := by
  simp only [signs, List.mem_cons, List.not_mem_nil, or_false, not_or] at h
  obtain ⟨h1, h2, h3, h4, h5, _⟩ := h
  simp only [next?, h1, h2, h3, h4, if_false, beq_eq_false_iff_ne.2 h5]

theorem read_plain {text : List Char} (h : ∀ c ∈ text, c ∉ signs) (pending : List Bracket) :
    read ⟨pending, false⟩ text = some ⟨pending, false⟩ := by
  induction text with
  | nil => rfl
  | cons c text ih =>
    have hc := h c (List.mem_cons_self ..)
    simp only [read, next?_plain hc, Option.bind_some]
    exact ih fun d hd => h d (List.mem_cons_of_mem c hd)

theorem hasBareComma_plain {text : List Char} (h : ∀ c ∈ text, c ∉ signs) (pending : List Bracket) :
    hasBareComma ⟨pending, false⟩ text = false := by
  induction text with
  | nil => rfl
  | cons c text ih =>
    have hc := h c (List.mem_cons_self ..)
    have hcomma : c ≠ ',' := fun e => hc (by rw [e]; decide)
    simp only [hasBareComma, next?_plain hc, beq_eq_false_iff_ne.2 hcomma, Bool.false_and, Bool.false_or]
    exact ih fun d hd => h d (List.mem_cons_of_mem c hd)

end Nesting

/-- A written name means nothing to a reader of lists. -/
theorem escape_plain {name : String} (hname : isIdentifier name = true) :
    ∀ c ∈ (escape name).toList, c ∉ Nesting.signs := by
  intro c hmem hsign
  have hsigns : Nesting.signs.all (fun sign => sign != backtick && !isWordChar sign) = true := by
    decide
  have hc := List.all_eq_true.1 hsigns c hsign
  rw [Bool.and_eq_true, bne_iff_ne, Bool.not_eq_true'] at hc
  exact not_mem_escape hname hc.1 hc.2 hmem

/-! ### Types -/

namespace TypeReader
open Nesting

/-- Only brackets and commas and hyphens are signs, so another mark opens and closes
nothing. -/
theorem pending_next_of_not_mem {reader : TypeReader} {c : Char} {mark : Mark}
    (hmark : Mark.ofChar? c = some mark) (hsign : c ∉ signs) :
    (reader.next mark).pending = reader.pending := by
  cases mark with
  | opening bracket => grind [Mark.ofChar?, signs]
  | closing bracket => grind [Mark.ofChar?, signs]
  | _ => rfl

/-- A mark changes the open brackets the way its character does. -/
theorem next?_of_accepts {reader : TypeReader} {c : Char} {mark : Mark}
    (hmark : Mark.ofChar? c = some mark) (haccepts : reader.accepts mark = true) :
    next? ⟨reader.pending, false⟩ c = some ⟨(reader.next mark).pending, false⟩ := by
  by_cases hsign : c ∈ signs
  · simp only [signs, List.mem_cons, List.not_mem_nil, or_false] at hsign
    rcases hsign with rfl | rfl | rfl | rfl | rfl | rfl
    · cases hmark
      rfl
    · cases hmark
      exact if_pos (beq_iff_eq.1 haccepts)
    · cases hmark
      rfl
    · cases hmark
      exact if_pos (beq_iff_eq.1 haccepts)
    · cases hmark
    · cases hmark
      rfl
  · rw [next?_plain hsign, pending_next_of_not_mem hmark hsign]

/-- A reader takes in characters, one mark after the other. -/
inductive Reads : TypeReader → List Char → TypeReader → Prop
  | done (reader : TypeReader) : Reads reader [] reader
  | arrow {reader after : TypeReader} {rest : List Char} (haccepts : reader.accepts .arrow = true)
    (hrest : Reads (reader.next .arrow) rest after) : Reads reader ('-' :: '>' :: rest) after
  | mark {reader after : TypeReader} {c : Char} {mark : Mark} {rest : List Char}
    (hmark : Mark.ofChar? c = some mark) (haccepts : reader.accepts mark = true)
    (hrest : Reads (reader.next mark) rest after) : Reads reader (c :: rest) after

theorem read_cons_inv {reader after : TypeReader} {mark : Mark} {rest : List Mark}
    (h : reader.read (mark :: rest) = some after) :
    reader.accepts mark = true ∧ (reader.next mark).read rest = some after := by
  rw [read] at h
  split at h
  · next haccepts => exact ⟨haccepts, h⟩
  · cases h

/-- Reading the marks of some characters is reading the characters. -/
theorem reads_of_read {cs : List Char} {marks : List Mark} {reader after : TypeReader}
    (hmarks : marks? cs = some marks) (hread : reader.read marks = some after) :
    Reads reader cs after := by
  induction cs using marks?.induct generalizing marks reader with
  | case1 =>
    cases hmarks
    cases hread
    exact .done _
  | case2 rest ih =>
    rw [marks?] at hmarks
    obtain ⟨others, hothers, rfl⟩ := Option.map_eq_some_iff.1 hmarks
    obtain ⟨haccepts, hrest⟩ := read_cons_inv hread
    exact .arrow haccepts (ih hothers hrest)
  | case3 c rest harrow mark others hothers hmark ih =>
    rw [marks?, hmark, hothers] at hmarks
    · cases hmarks
      obtain ⟨haccepts, hrest⟩ := read_cons_inv hread
      exact .mark hmark haccepts (ih hothers hrest)
    · exact harrow
  | case4 c rest harrow hnone ih =>
    rw [marks?] at hmarks
    · split at hmarks
      · next hmark hothers => exact absurd hothers (hnone _ _ hmark)
      · cases hmarks
    · exact harrow

/-- Characters leave the brackets open that their marks leave open. -/
theorem Reads.nesting {reader after : TypeReader} {cs : List Char} (h : Reads reader cs after) :
    Nesting.read ⟨reader.pending, false⟩ cs = some ⟨after.pending, false⟩ := by
  induction h with
  | done reader => rfl
  | arrow haccepts hrest ih => exact ih
  | mark hmark haccepts hrest ih =>
    simp only [Nesting.read, next?_of_accepts hmark haccepts, Option.bind_some]
    exact ih

end TypeReader

/-- A type is read to a point where nothing is open. -/
theorem reads_of_isTypeReference {type : String} (h : isTypeReference type = true) :
    ∃ after, TypeReader.Reads {} type.toList after ∧ after.pending = [] := by
  unfold isTypeReference at h
  split at h
  · cases h
  · next first rest htype =>
    rw [htype]
    obtain ⟨_, hread⟩ := Bool.and_eq_true_iff.1 h
    split at hread
    · next reader hreader =>
      obtain ⟨marks, hmarks, hreader⟩ := Option.bind_eq_some_iff.1 hreader
      exact ⟨reader, TypeReader.reads_of_read hmarks hreader,
        List.isEmpty_iff.1 (Bool.and_eq_true_iff.1 hread).1⟩
    · cases hread

/-- **A type leaves the brackets around it as they are.** -/
theorem read_of_isTypeReference {type : String} (h : isTypeReference type = true) :
    Nesting.read {} type.toList = some {} := by
  obtain ⟨after, hreads, hpending⟩ := reads_of_isTypeReference h
  have hnesting := hreads.nesting
  rwa [hpending] at hnesting

end FactoryGen.Kotlin

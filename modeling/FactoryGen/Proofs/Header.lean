import FactoryGen.Proofs.Nesting
import FactoryGen.Proofs.Source

/-! The header of a generated class, read back.

What a compiler takes for the parameters of a factory is not what the generator meant
but what the text says: everything between the parentheses of the class header, cut at
the commas outside every bracket. `header_pieces_iff` compares the two. The parentheses
always enclose what was meant to stand between them. The pieces are the parameters just
when no type has a comma outside its brackets, which the form of a type does not rule
out: such a type ends its parameter early, and the rest of it is taken for another. -/
namespace FactoryGen
namespace Kotlin
open Nesting

/-- The text behind the opening words of the first line that has them. -/
def behind (opening text : List Char) : List Char :=
  (Text.join ['\n'] ((Text.pieces '\n' text).dropWhile fun line => !opening.isPrefixOf line)).drop
    opening.length

/-- What stands between the parentheses of a class header. -/
def headerText? (className source : String) : Option (List Char) :=
  enclosed {} (behind ("class " ++ className ++ "(").toList source.toList)

/-- The parameters in a list of parameters, without the blanks behind commas. -/
def parameterTexts? (text : List Char) : Option (List String) :=
  if text = [] then some []
  else (split {} [] text).map fun pieces =>
    pieces.map fun piece => String.ofList (piece.dropWhile (· == ' '))

/-! ### Finding the header -/

theorem behind_append {opening : List Char} (hopening : '\n' ∉ opening) (rest : List Char) :
    behind opening (opening ++ rest) = rest := by
  have hjoin := Text.join_pieces '\n' (opening ++ rest)
  simp only [Text.pieces, Text.cut_append hopening] at hjoin
  simp only [behind, Text.pieces, Text.cut_append hopening]
  rw [List.dropWhile_cons_of_neg (by simp), hjoin, List.drop_left]

theorem behind_line {opening line : List Char} (hline : '\n' ∉ line)
    (hother : opening.isPrefixOf line = false) (rest : List Char) :
    behind opening (line ++ '\n' :: rest) = behind opening rest := by
  unfold behind
  rw [Text.pieces_append hline, List.dropWhile_cons_of_pos (by rw [hother]; rfl)]

/-! ### Cutting a list -/

/-- Blanks in front of a text are not in brackets and are no commas. -/
theorem hasBareComma_dropWhile (text : List Char) :
    hasBareComma {} (text.dropWhile (· == ' ')) = hasBareComma {} text := by
  induction text with
  | nil => rfl
  | cons c text ih =>
    rw [List.dropWhile_cons]
    split
    · next h =>
      rw [ih, beq_iff_eq.1 h]
      rfl
    · rfl

theorem read_intercalate {items : List String}
    (h : ∀ item ∈ items, read {} item.toList = some {}) :
    read {} (", ".intercalate items).toList = some {} := by
  induction items with
  | nil => rfl
  | cons item items ih =>
    have hitem := h item (List.mem_cons_self ..)
    by_cases hitems : items = []
    · rw [hitems, String.intercalate_singleton]
      exact hitem
    · have hrest := ih fun other hmem => h other (List.mem_cons_of_mem _ hmem)
      rw [String.intercalate_cons_of_ne_nil hitems, String.toList_append, String.toList_append,
        read_append, read_append, hitem]
      exact hrest

theorem split_intercalate {item : String} {items : List String}
    (hread : ∀ other ∈ item :: items, read {} other.toList = some {})
    (hbare : ∀ other ∈ item :: items, hasBareComma {} other.toList = false) (before : List Char) :
    split {} before (", ".intercalate (item :: items)).toList =
      some ((before ++ item.toList) :: items.map fun other => ' ' :: other.toList) := by
  induction items generalizing item before with
  | nil =>
    have hsplit := split_append (hread item (List.mem_cons_self ..))
      (hbare item (List.mem_cons_self ..)) before []
    rw [List.append_nil] at hsplit
    rw [String.intercalate_singleton, hsplit]
    rfl
  | cons next items ih =>
    have hrest := ih (fun other hmem => hread other (List.mem_cons_of_mem _ hmem))
      (fun other hmem => hbare other (List.mem_cons_of_mem _ hmem)) [' ']
    rw [String.intercalate_cons_of_ne_nil (List.cons_ne_nil _ _), String.toList_append,
      String.toList_append, List.append_assoc, split_append (hread item (List.mem_cons_self ..))
        (hbare item (List.mem_cons_self ..))]
    show (split {} [' '] (", ".intercalate (next :: items)).toList).map _ = _
    rw [hrest]
    rfl

theorem trim_of_start {item : String} (h : ∃ c rest, item.toList = c :: rest ∧ c ≠ ' ') :
    String.ofList (item.toList.dropWhile (· == ' ')) = item := by
  obtain ⟨c, rest, hitem, hc⟩ := h
  rw [hitem, List.dropWhile_cons_of_neg (by simpa using hc), ← hitem, String.ofList_toList]

/-- A list of parameters reads as these parameters just when none has a bare comma. -/
theorem parameterTexts?_intercalate_iff {items : List String}
    (hread : ∀ item ∈ items, read {} item.toList = some {})
    (hstart : ∀ item ∈ items, ∃ c rest, item.toList = c :: rest ∧ c ≠ ' ') :
    parameterTexts? (", ".intercalate items).toList = some items ↔
      ∀ item ∈ items, hasBareComma {} item.toList = false := by
  cases items with
  | nil => exact ⟨fun _ item hmem => absurd hmem List.not_mem_nil, fun _ => rfl⟩
  | cons item items =>
    have hne : (", ".intercalate (item :: items)).toList ≠ [] := by
      obtain ⟨c, rest, hitem, _⟩ := hstart item (List.mem_cons_self ..)
      by_cases hitems : items = []
      · rw [hitems, String.intercalate_singleton, hitem]
        exact List.cons_ne_nil _ _
      · rw [String.intercalate_cons_of_ne_nil hitems, String.toList_append, String.toList_append,
          hitem]
        exact List.cons_ne_nil _ _
    unfold parameterTexts?
    rw [if_neg hne]
    constructor
    · intro h
      obtain ⟨pieces, hsplit, hpieces⟩ := Option.map_eq_some_iff.1 h
      intro other hmem
      rw [← hpieces] at hmem
      obtain ⟨piece, hpiece, rfl⟩ := List.mem_map.1 hmem
      rw [String.toList_ofList, hasBareComma_dropWhile]
      exact hasBareComma_of_mem_split rfl rfl hsplit piece hpiece
    · intro hbare
      have hitem := trim_of_start (hstart item (List.mem_cons_self ..))
      have hitems : (items.map fun other =>
          String.ofList ((' ' :: other.toList).dropWhile (· == ' '))) = items := by
        rw [List.map_congr_left (g := id)]
        · exact List.map_id _
        · intro other hmem
          exact trim_of_start (hstart other (List.mem_cons_of_mem _ hmem))
      rw [split_intercalate hread hbare, Option.map_some, List.map_cons, List.map_map,
        List.nil_append, hitem]
      exact congrArg (fun others => some (item :: others)) hitems

end Kotlin

/-- A parameter as a header declares it. -/
def Parameter.declaration (parameter : Parameter) : String :=
  Kotlin.escape (Kotlin.strip parameter.name) ++ ": " ++ Kotlin.strip parameter.type

namespace Parameter
open Kotlin Nesting

variable {parameter : Parameter}

/-! ### Declarations -/

/-- The name of a parameter and its colon have no brackets and no commas in them. -/
theorem label_plain (hname : isIdentifier (Kotlin.strip parameter.name) = true) :
    ∀ c ∈ (escape (Kotlin.strip parameter.name) ++ ": ").toList, c ∉ signs := by
  intro c hmem
  rw [String.toList_append, List.mem_append] at hmem
  rcases hmem with hmem | hmem
  · exact escape_plain hname c hmem
  · have hcolon : c ∈ [':', ' '] := hmem
    rcases List.mem_cons.1 hcolon with rfl | hspace
    · decide
    · rw [List.mem_singleton.1 hspace]
      decide

theorem read_declaration (hname : isIdentifier (Kotlin.strip parameter.name) = true)
    (htype : isTypeReference (Kotlin.strip parameter.type) = true) :
    read {} parameter.declaration.toList = some {} := by
  rw [declaration, String.toList_append, read_append, read_plain (label_plain hname)]
  exact read_of_isTypeReference htype

theorem hasBareComma_declaration (hname : isIdentifier (Kotlin.strip parameter.name) = true) :
    hasBareComma {} parameter.declaration.toList = hasBareComma {} (Kotlin.strip parameter.type).toList := by
  rw [declaration, String.toList_append, hasBareComma_append (read_plain (label_plain hname) []),
    hasBareComma_plain (label_plain hname) [], Bool.false_or]

theorem declaration_start (hname : isIdentifier (Kotlin.strip parameter.name) = true) :
    ∃ c rest, parameter.declaration.toList = c :: rest ∧ c ≠ ' ' := by
  have hne : (escape (Kotlin.strip parameter.name)).toList ≠ [] := by
    rw [ne_eq, String.toList_eq_nil_iff, escape_eq_empty_iff]
    intro hempty
    rw [hempty] at hname
    cases hname
  obtain ⟨c, rest, hwritten⟩ := List.exists_cons_of_ne_nil hne
  refine ⟨c, rest ++ (": ".toList ++ (Kotlin.strip parameter.type).toList), ?_, ?_⟩
  · rw [declaration, String.toList_append, String.toList_append, hwritten, List.cons_append,
      List.cons_append, List.append_assoc]
  · have hmem : c ∈ (escape (Kotlin.strip parameter.name)).toList := by
      rw [hwritten]
      exact List.mem_cons_self ..
    rintro rfl
    exact not_mem_escape hname (by decide) (by decide) hmem

end Parameter

namespace Factory
open Kotlin

/-! ### The header in its file -/

theorem behind_unlines_others {opening : String} {front : List String}
    (h : ∀ line ∈ front, '\n' ∉ line.toList ∧ opening.toList.isPrefixOf line.toList = false)
    (lines : List String) :
    behind opening.toList (unlines (front ++ lines)).toList =
      behind opening.toList (unlines lines).toList := by
  induction front with
  | nil => rfl
  | cons line front ih =>
    obtain ⟨hline, hother⟩ := h line (List.mem_cons_self ..)
    rw [List.cons_append, unlines_cons, String.toList_append, String.toList_append]
    have hrest := ih fun other hmem => h other (List.mem_cons_of_mem _ hmem)
    exact (behind_line hline hother _).trans hrest

theorem behind_unlines_opening {opening : String} (hopening : '\n' ∉ opening.toList)
    (text : String) (lines : List String) :
    behind opening.toList (unlines ((opening ++ text) :: lines)).toList =
      text.toList ++ ('\n' :: (unlines lines).toList) := by
  rw [unlines_cons, String.append_assoc, String.toList_append, behind_append hopening,
    String.toList_append, String.toList_append]
  rfl

/-- If nothing in a factory breaks its lines, then what its header encloses is its
signature, as long as the signature closes nothing that it has not opened. -/
theorem headerText?_source (factory : Factory) (hmarker : '\n' ∉ factory.marker.toList)
    (hpackage : '\n' ∉ factory.package.toList) (hname : '\n' ∉ factory.name.toList)
    (hsignature : Nesting.read {} factory.signature.toList = some {}) :
    headerText? factory.name factory.source = some factory.signature.toList := by
  have hopening : '\n' ∉ ("class " ++ factory.name ++ "(").toList := by
    simp only [String.toList_append, List.mem_append, not_or]
    exact ⟨⟨by decide, hname⟩, by decide⟩
  have hfront : ∀ line ∈ ["// " ++ factory.marker] ++
      (if factory.package = "" then [] else ["package " ++ factory.package, ""]),
      '\n' ∉ line.toList ∧
        ("class " ++ factory.name ++ "(").toList.isPrefixOf line.toList = false := by
    intro line hmem
    rcases List.mem_append.1 hmem with hmem | hmem
    · rw [List.mem_singleton.1 hmem]
      simpa [List.isPrefixOf] using hmarker
    · split at hmem
      · cases hmem
      · rcases List.mem_cons.1 hmem with rfl | hmem
        · simpa [List.isPrefixOf] using hpackage
        · rw [List.mem_singleton.1 hmem]
          simp
  have hline : "class " ++ factory.name ++ "(" ++ factory.signature ++ ") : " ++
      factory.interface ++ " \x7b" = ("class " ++ factory.name ++ "(") ++
      (factory.signature ++ (")" ++ (" : " ++ factory.interface ++ " \x7b"))) := by
    simp only [String.append_assoc]
    rfl
  obtain ⟨rest, hbehind⟩ : ∃ rest, behind ("class " ++ factory.name ++ "(").toList
      factory.source.toList = factory.signature.toList ++ ')' :: rest := by
    have hsource : factory.source = unlines factory.lines := rfl
    rw [hsource, lines]
    simp only [List.append_assoc]
    rw [← List.append_assoc, behind_unlines_others hfront, hline, List.singleton_append,
      behind_unlines_opening hopening]
    simp only [String.toList_append, List.append_assoc]
    exact ⟨_, rfl⟩
  rw [headerText?, hbehind, Nesting.enclosed_append hsignature]
  show some (factory.signature.toList ++ []) = _
  rw [List.append_nil]

/-! ### The header of a shape -/

section
variable {settings : Settings} {shape : Shape}

theorem signature_ofShape (settings : Settings) (shape : Shape) :
    (ofShape settings shape).signature =
      ", ".intercalate (shape.parameters.map FactoryGen.Parameter.declaration) := by
  simp only [signature, ofShape, List.map_map]
  rfl

theorem newline_not_mem_marker (hsettings : settings.defect? = none) :
    '\n' ∉ (ofShape settings shape).marker.toList := by
  intro hmem
  have hmarker := ((Settings.defect?_eq_none_iff settings).1 hsettings).2.2
  exact (hmarker _ hmem).1 rfl

theorem newline_not_mem_package (hshape : shape.defect? = none) :
    '\n' ∉ (ofShape settings shape).package.toList := by
  have hpackage := ((Shape.defect?_eq_none_iff shape).1 hshape).2.2.1
  have hwritten : (ofShape settings shape).package = escapePackage shape.package := rfl
  rw [hwritten]
  intro hmem
  rcases mem_escapePackage hpackage hmem with h | h | h
  · revert h
    decide
  · revert h
    decide
  · revert h
    decide

/-- The name of a factory has word characters only. -/
theorem not_mem_name (hshape : shape.defect? = none) {c : Char} (hc : isWordChar c = false) :
    c ∉ (ofShape settings shape).name.toList := by
  have hclass := ((Shape.defect?_eq_none_iff shape).1 hshape).1
  have hname : (ofShape settings shape).name = shape.className ++ "Factory" := rfl
  rw [hname, String.toList_append, List.mem_append, not_or]
  exact ⟨not_mem_of_isIdentifier hclass hc, not_mem_of_isIdentifier (by decide) hc⟩

/-- The parentheses of a header enclose the declarations of all parameters. -/
theorem headerText?_ofShape (hsettings : settings.defect? = none) (hshape : shape.defect? = none)
    (hread : ∀ parameter ∈ shape.parameters,
      Nesting.read {} parameter.declaration.toList = some {}) :
    headerText? shape.factoryName (ofShape settings shape).source =
      some (", ".intercalate (shape.parameters.map FactoryGen.Parameter.declaration)).toList := by
  rw [← signature_ofShape settings shape]
  have hsignature : Nesting.read {} (ofShape settings shape).signature.toList = some {} := by
    rw [signature_ofShape]
    exact read_intercalate (List.forall_mem_map.2 hread)
  have hname : shape.factoryName = (ofShape settings shape).name := rfl
  rw [hname]
  exact (ofShape settings shape).headerText?_source (newline_not_mem_marker hsettings)
    (newline_not_mem_package hshape) (not_mem_name hshape (by decide)) hsignature

end

end Factory

namespace Generator

/-- **What a header is read as.** The parentheses enclose the declarations of the
parameters, for any shape that breaks no rule. Cut at its bare commas, the list gives
back these declarations just when no type has such a comma. -/
theorem header_pieces_iff (settings : Settings) (shape : Shape)
    (hsettings : settings.defect? = none) (hshape : shape.defect? = none) :
    ∃ generator file text, ofSettings settings = .ok generator ∧
      generator.generate shape = .ok file ∧
      Kotlin.headerText? shape.factoryName file.text = some text ∧
      text = (", ".intercalate (shape.parameters.map Parameter.declaration)).toList ∧
      (Kotlin.parameterTexts? text = some (shape.parameters.map Parameter.declaration) ↔
        ∀ parameter ∈ shape.parameters,
          Kotlin.Nesting.hasBareComma {} (Kotlin.strip parameter.type).toList = false) := by
  obtain ⟨generator, hnew, hgenerate⟩ := exists_generate hsettings hshape
  obtain ⟨_, _, _, hparameters, _⟩ := (Shape.defect?_eq_none_iff shape).1 hshape
  have hread : ∀ parameter ∈ shape.parameters,
      Kotlin.Nesting.read {} parameter.declaration.toList = some {} := fun parameter hmem =>
    Parameter.read_declaration (hparameters parameter hmem).1 (hparameters parameter hmem).2
  have hstart : ∀ parameter ∈ shape.parameters,
      ∃ c rest, parameter.declaration.toList = c :: rest ∧ c ≠ ' ' := fun parameter hmem =>
    Parameter.declaration_start (hparameters parameter hmem).1
  have hheader := Factory.headerText?_ofShape hsettings hshape hread
  -- The text is kept abstract: only its header matters from here on.
  generalize (Factory.ofShape settings shape).source = source at hgenerate hheader
  refine ⟨generator, _, _, hnew, hgenerate, hheader, rfl, ?_⟩
  rw [Kotlin.parameterTexts?_intercalate_iff (List.forall_mem_map.2 hread)
    (List.forall_mem_map.2 hstart), List.forall_mem_map]
  constructor
  · intro h parameter hmem
    rw [← Parameter.hasBareComma_declaration (hparameters parameter hmem).1]
    exact h parameter hmem
  · intro h parameter hmem
    rw [Parameter.hasBareComma_declaration (hparameters parameter hmem).1]
    exact h parameter hmem

/-- Commas inside brackets of either kind do not end a parameter. -/
theorem header_pieces_of_map :
    let settings : Settings := {}
    let shape : Shape := ⟨"A", "p", "B",
      [⟨"`in`", "Map<K, (a: p.B, p.C) -> `p`.D?>"⟩, ⟨"x", "kotlin.Int"⟩]⟩
    settings.defect? = none ∧ shape.defect? = none ∧
      ∃ generator file text, ofSettings settings = .ok generator ∧
        generator.generate shape = .ok file ∧
        Kotlin.headerText? "AFactory" file.text = some text ∧
        Kotlin.parameterTexts? text =
          some ["`in`: Map<K, (a: p.B, p.C) -> p.D?>", "x: kotlin.Int"] := by
  intro settings shape
  have hsettings : settings.defect? = none := by decide +kernel
  have hshape : shape.defect? = none := by decide +kernel
  obtain ⟨generator, file, text, hnew, hgenerate, hheader, _, hpieces⟩ :=
    header_pieces_iff settings shape hsettings hshape
  refine ⟨hsettings, hshape, generator, file, text, hnew, hgenerate, hheader, ?_⟩
  exact (hpieces.2 (by decide)).trans (by decide)

/-- A type that is accepted, and is two parameters to a reader of the header. -/
theorem header_pieces_of_bare_comma :
    let settings : Settings := {}
    let shape : Shape := ⟨"A", "p", "androidx.lifecycle.ViewModel", [⟨"x", "kotlin.Int, y"⟩]⟩
    settings.defect? = none ∧ shape.defect? = none ∧
      ∃ generator file text, ofSettings settings = .ok generator ∧
        generator.generate shape = .ok file ∧
        Kotlin.headerText? shape.factoryName file.text = some text ∧
        Kotlin.parameterTexts? text = some ["x: kotlin.Int", "y"] ∧
        Kotlin.parameterTexts? text ≠ some (shape.parameters.map Parameter.declaration) := by
  intro settings shape
  have hsettings : settings.defect? = none := by decide +kernel
  have hshape : shape.defect? = none := by decide +kernel
  obtain ⟨generator, hnew, hgenerate⟩ := exists_generate hsettings hshape
  have hread : ∀ parameter ∈ shape.parameters,
      Kotlin.Nesting.read {} parameter.declaration.toList = some {} := by decide
  have hheader := Factory.headerText?_ofShape hsettings hshape hread
  generalize (Factory.ofShape settings shape).source = source at hgenerate hheader
  refine ⟨hsettings, hshape, generator, _, _, hnew, hgenerate, hheader, ?_, ?_⟩
  · decide
  · decide

end Generator
end FactoryGen

import FactoryGen.Proofs.Counting
import FactoryGen.Proofs.Nesting

/-! Where the line breaks of a generated file come from.

The checks that names, types and the marker have to pass let no line break through
(`lacks_ofShape`). The base type and the factory interface only have to be something other
than blanks, so they may have line breaks in them, and each of these goes into the file, where
the rest of the text begins a line of its own. `line_breaks_iff` counts: a file has the lines
that were planned for it just when neither of the two has a line break. -/
namespace FactoryGen
namespace Text

/-- A character that ends a line. -/
def isLineBreak (c : Char) : Bool := c == '\n' || c == '\r'

/-- A text that stays on its line. -/
def IsSingleLine (text : String) : Prop := ∀ c ∈ text.toList, isLineBreak c = false

theorem isSingleLine_iff (text : String) :
    IsSingleLine text ↔ text.toList.count '\n' = 0 ∧ text.toList.count '\r' = 0 := by
  simp only [IsSingleLine, isLineBreak, Bool.or_eq_false_iff, beq_eq_false_iff_ne,
    List.count_eq_zero]
  constructor
  · intro h
    exact ⟨fun hmem => (h _ hmem).1 rfl, fun hmem => (h _ hmem).2 rfl⟩
  · rintro ⟨hfeed, hreturn⟩ c hmem
    exact ⟨fun e => hfeed (e ▸ hmem), fun e => hreturn (e ▸ hmem)⟩

end Text

namespace Kotlin
variable {c : Char}

theorem TypeReader.Reads.not_mem {reader after : TypeReader} {text : List Char}
    (h : Reads reader text after) (hhyphen : c ≠ '-') (hmark : Mark.ofChar? c = none) :
    c ∉ text := by
  induction h with
  | done reader => exact List.not_mem_nil
  | arrow haccepts hrest ih =>
    rw [List.mem_cons, List.mem_cons, not_or, not_or]
    refine ⟨hhyphen, ?_, ih⟩
    rintro rfl
    cases hmark
  | mark hother haccepts hrest ih =>
    rw [List.mem_cons, not_or]
    refine ⟨?_, ih⟩
    rintro rfl
    rw [hmark] at hother
    cases hother

/-- What is no mark and no part of an arrow has no place in a type. -/
theorem not_mem_of_isTypeReference {type : String} (h : isTypeReference type = true)
    (hhyphen : c ≠ '-') (hmark : Mark.ofChar? c = none) : c ∉ type.toList := by
  obtain ⟨after, hreads, _⟩ := reads_of_isTypeReference h
  exact hreads.not_mem hhyphen hmark

end Kotlin

namespace Factory
open Kotlin Text

/-- A character that is in nothing but the base type and the interface. -/
structure Lacks (factory : Factory) (c : Char) : Prop where
  marker : c ∉ factory.marker.toList
  package : c ∉ factory.package.toList
  name : c ∉ factory.name.toList
  className : c ∉ factory.className.toList
  names : ∀ parameter ∈ factory.parameters, c ∉ parameter.name.toList
  types : ∀ parameter ∈ factory.parameters, c ∉ parameter.type.toList

/-- The checks let no line break through. -/
theorem lacks_ofShape {settings : Settings} {shape : Shape} (hsettings : settings.defect? = none)
    (hshape : shape.defect? = none) {c : Char} (hc : isLineBreak c = true) :
    (ofShape settings shape).Lacks c := by
  obtain ⟨hclass, _, hpackage, hparameters, _⟩ := (Shape.defect?_eq_none_iff shape).1 hshape
  obtain ⟨_, _, hmarker⟩ := (Settings.defect?_eq_none_iff settings).1 hsettings
  -- A line break is no word character, and no type has it.
  obtain ⟨hword, hdot, hbacktick, hhyphen, hmark⟩ : isWordChar c = false ∧ c ≠ '.' ∧
      c ≠ backtick ∧ c ≠ '-' ∧ Mark.ofChar? c = none := by
    rcases Bool.or_eq_true_iff.1 hc with hc | hc
    all_goals
      rw [beq_iff_eq.1 hc]
      decide
  refine ⟨?_, ?_, ?_, not_mem_of_isIdentifier hclass hword, ?_, ?_⟩
  · intro hmem
    have hkept := hmarker c hmem
    simp [isLineBreak, hkept] at hc
  · intro hmem
    rcases mem_escapePackage hpackage hmem with h | h | h
    · exact hdot h
    · exact hbacktick h
    · rw [h] at hword
      cases hword
  · show c ∉ (shape.className ++ "Factory").toList
    rw [String.toList_append, List.mem_append, not_or]
    exact ⟨not_mem_of_isIdentifier hclass hword, not_mem_of_isIdentifier (by decide) hword⟩
  · exact List.forall_mem_map.2 fun parameter hmem =>
      not_mem_escape (hparameters parameter hmem).1 hbacktick hword
  · exact List.forall_mem_map.2 fun parameter hmem =>
      not_mem_of_isTypeReference (hparameters parameter hmem).2 hhyphen hmark

/-- Then it is in the source as often as it is in these two. -/
theorem Lacks.count_source {factory : Factory} {c : Char} (h : factory.Lacks c)
    (hc : isFixed c = false) :
    factory.source.toList.count c =
      factory.interface.toList.count c + factory.baseType.toList.count c +
        if c = '\n' then factory.lines.length else 0 := by
  have hnames : factory.nameCount c = 0 :=
    List.sum_eq_zero (List.forall_mem_map.2 fun parameter hmem =>
      List.count_eq_zero.2 (h.names parameter hmem))
  have htypes : factory.typeCount c = 0 :=
    List.sum_eq_zero (List.forall_mem_map.2 fun parameter hmem =>
      List.count_eq_zero.2 (h.types parameter hmem))
  rw [factory.count_source hc, hnames, htypes, List.count_eq_zero.2 h.marker,
    List.count_eq_zero.2 h.package, List.count_eq_zero.2 h.name, List.count_eq_zero.2 h.className]
  omega

end Factory

namespace Generator
open Text

/-- The lines that are planned for a generated file: the marker, the package with an empty line
behind it, the header, the fields with an empty line behind them, the `create` method, and the
closing brace. -/
def plannedLines (settings : Settings) (shape : Shape) : Nat :=
  1 + (if shape.package = "" then 0 else 2) + 1 + shape.parameters.length +
    (if shape.parameters.length = 0 then 0 else 1) +
    (if settings.strategy = .checked then 6 else 4) + 1

theorem length_lines_ofShape (settings : Settings) (shape : Shape) :
    (Factory.ofShape settings shape).lines.length = plannedLines settings shape := by
  rw [Factory.length_lines, plannedLines]
  simp only [Factory.ofShape, Kotlin.escapePackage_eq_empty_iff, List.length_map, beq_iff_eq]

/-- **Line breaks come from the plan, the base type and the interface.** For usable settings and
any shape that breaks no rule, the file has a line feed for each planned line, and besides these
the line breaks of the two types of the settings, which nothing checks. So it has the planned
lines and no others just when both types are on one line. -/
theorem line_breaks_iff (settings : Settings) (shape : Shape) (hsettings : settings.defect? = none)
    (hshape : shape.defect? = none) :
    ∃ generator file, ofSettings settings = .ok generator ∧ generator.generate shape = .ok file ∧
      file.text.toList.count '\n' = plannedLines settings shape +
        (settings.baseType.toList.count '\n' + settings.factoryInterface.toList.count '\n') ∧
      file.text.toList.count '\r' =
        settings.baseType.toList.count '\r' + settings.factoryInterface.toList.count '\r' ∧
      ('\r' ∉ file.text.toList ∧ file.text.toList.count '\n' = plannedLines settings shape ↔
        IsSingleLine settings.baseType ∧ IsSingleLine settings.factoryInterface) := by
  obtain ⟨generator, hnew, hgenerate⟩ := exists_generate hsettings hshape
  have hfeed := (Factory.lacks_ofShape hsettings hshape (c := '\n') rfl).count_source (by decide)
  have hreturn := (Factory.lacks_ofShape hsettings hshape (c := '\r') rfl).count_source (by decide)
  rw [if_pos rfl, length_lines_ofShape] at hfeed
  rw [if_neg (by decide), Nat.add_zero] at hreturn
  have hbase : (Factory.ofShape settings shape).baseType = settings.baseType := rfl
  have hinterface : (Factory.ofShape settings shape).interface = settings.factoryInterface := rfl
  rw [hbase, hinterface, Nat.add_comm (List.count _ _)] at hfeed hreturn
  rw [Nat.add_comm] at hfeed
  -- The text is kept abstract: all that matters of it was counted.
  generalize (Factory.ofShape settings shape).source = source at hgenerate hfeed hreturn
  refine ⟨generator, _, hnew, hgenerate, hfeed, hreturn, ?_⟩
  rw [isSingleLine_iff, isSingleLine_iff, ← List.count_eq_zero, hfeed, hreturn]
  omega

/-- A class in a package, with parameters that are written in several places. -/
theorem line_breaks_of_function :
    let settings : Settings := { strategy := .checked }
    let shape : Shape := ⟨"A", "p.in", "B", [⟨"`is`", "`p`.T"⟩, ⟨"x", "(a: A) -> B?"⟩]⟩
    settings.defect? = none ∧ shape.defect? = none ∧
      ∃ generator file, ofSettings settings = .ok generator ∧ generator.generate shape = .ok file ∧
        '\r' ∉ file.text.toList ∧ file.text.toList.count '\n' = 14 := by
  intro settings shape
  have hsettings : settings.defect? = none := by decide +kernel
  have hshape : shape.defect? = none := by decide +kernel
  obtain ⟨generator, file, hnew, hgenerate, _, _, hlines⟩ :=
    line_breaks_iff settings shape hsettings hshape
  refine ⟨hsettings, hshape, generator, file, hnew, hgenerate, hlines.2 ⟨?_, ?_⟩⟩
  · rw [isSingleLine_iff]
    decide
  · rw [isSingleLine_iff]
    decide

/-- A base type that is accepted, and begins another line of code. -/
theorem line_breaks_of_base_type :
    let settings : Settings := { baseType := "p.B\nval x = 1" }
    let shape : Shape := ⟨"A", "p", "p.B", []⟩
    settings.defect? = none ∧ shape.defect? = none ∧ plannedLines settings shape = 9 ∧
      ∃ generator file, ofSettings settings = .ok generator ∧ generator.generate shape = .ok file ∧
        file.text.toList.count '\n' = 10 := by
  intro settings shape
  have hsettings : settings.defect? = none := by decide +kernel
  have hshape : shape.defect? = none := by decide +kernel
  have hplanned : plannedLines settings shape = 9 := rfl
  obtain ⟨generator, hnew, hgenerate⟩ := exists_generate hsettings hshape
  have hcount := (Factory.lacks_ofShape hsettings hshape (c := '\n') rfl).count_source (by decide)
  have hbase : (Factory.ofShape settings shape).baseType.toList.count '\n' = 1 := by decide
  have hinterface : (Factory.ofShape settings shape).interface.toList.count '\n' = 0 := by decide
  rw [if_pos rfl, length_lines_ofShape, hplanned, hbase, hinterface] at hcount
  generalize (Factory.ofShape settings shape).source = source at hgenerate hcount
  exact ⟨hsettings, hshape, hplanned, generator, _, hnew, hgenerate, hcount⟩

end Generator
end FactoryGen

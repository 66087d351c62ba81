import FactoryGen.Proofs.Batch
import FactoryGen.Proofs.Counting
import FactoryGen.Proofs.Gate

/-! Two ways to a factory, and what becomes of backticks on them.

A shape that someone made up is checked with its backticks on (`Generator.generate`), and
only its factory is made without them. The shape of a symbol loses them at the gate, before
it is checked, and again when its factory is made (`Generator.process`). Neither order
matters: stripping twice is stripping once (`render_strip`), and it keeps every rule broken
or unbroken (`Shape.breaksFirst_strip_iff`). `generate_agrees_report` puts the two ways side
by side.

Where backticks of a factory come from is a matter of counting (`Kotlin.backticks`): they are
the ones of the settings, and two for each place where a hard keyword is written. -/
namespace FactoryGen
namespace Kotlin

/-! ### Counting backticks -/

/-- The number of backticks in a text. -/
def backticks (text : String) : Nat := text.toList.count backtick

/-- A name without backticks, or a hard keyword between two. -/
def PlainOrQuoted (name : String) : Prop :=
  backticks name = 0 ∨
    ∃ keyword ∈ hardKeywords,
      name = String.singleton backtick ++ keyword ++ String.singleton backtick

@[simp]
theorem backticks_append (a b : String) : backticks (a ++ b) = backticks a + backticks b := by
  simp only [backticks, String.toList_append, List.count_append]

theorem backticks_of_not_mem {text : String} (h : backtick ∉ text.toList) : backticks text = 0 :=
  List.count_eq_zero.2 h

/-- Stripping leaves none. -/
theorem backticks_strip (name : String) : backticks (strip name) = 0 := by
  refine backticks_of_not_mem fun hmem => ?_
  rw [toList_strip] at hmem
  exact bne_iff_ne.1 (List.mem_filter.1 hmem).2 rfl

theorem backticks_of_isIdentifier {name : String} (h : isIdentifier name = true) :
    backticks name = 0 :=
  backticks_of_not_mem (not_mem_of_isIdentifier h (by decide))

/-- What is not in the separator is where it was in the parts. -/
theorem count_join {c : Char} {separator : List Char} (h : c ∉ separator)
    (parts : List (List Char)) :
    (Text.join separator parts).count c = (parts.map (List.count c)).sum := by
  fun_induction Text.join separator parts with
  | case1 => rfl
  | case2 piece => simp only [List.map_cons, List.map_nil, List.sum_cons, List.sum_nil, Nat.add_zero]
  | case3 piece next others ih =>
    rw [List.count_append, List.count_append, List.count_eq_zero.2 h, ih, Nat.add_zero]
    rfl

theorem backticks_dotted (segments : List String) :
    backticks (dotted segments) = (segments.map backticks).sum := by
  rw [backticks, dotted, String.toList_ofList, count_join (by decide), List.map_map]
  rfl

/-- Only a hard keyword is written with backticks, one on each side. -/
theorem backticks_escape {name : String} (h : backticks name = 0) :
    backticks (escape name) = if isHardKeyword name then 2 else 0 := by
  unfold escape
  split
  · rw [backticks_append, backticks_append, h]
    rfl
  · exact h

theorem plainOrQuoted_escape {name : String} (h : backticks name = 0) :
    PlainOrQuoted (escape name) := by
  unfold escape
  split
  · next hkeyword => exact .inr ⟨name, List.contains_iff_mem.1 hkeyword, rfl⟩
  · exact .inl h

/-- What weighs the same wherever a test holds, and nothing elsewhere, is counted by the
test. -/
theorem sum_map_eq_mul_countP {α : Type} {weight : α → Nat} {test : α → Bool} {each : Nat}
    {items : List α} (h : ∀ item ∈ items, weight item = if test item then each else 0) :
    (items.map weight).sum = each * items.countP test := by
  induction items with
  | nil => rfl
  | cons item rest ih =>
    have hitem := h item (List.mem_cons_self ..)
    have hrest := ih fun other hmem => h other (List.mem_cons_of_mem item hmem)
    rw [List.map_cons, List.sum_cons, hitem, hrest, List.countP_cons, Nat.mul_add, Nat.add_comm]
    split
    · rw [Nat.mul_one]
    · rw [Nat.mul_zero]

/-- A package has two backticks for each of its segments that is a hard keyword. -/
theorem backticks_escapePackage {package : String} (h : isPackage package = true) :
    backticks (escapePackage package) = 2 * (packageSegments package).countP isHardKeyword := by
  rw [escapePackage, backticks_dotted, List.map_map]
  refine sum_map_eq_mul_countP fun segment hmem => ?_
  exact backticks_escape (backticks_of_isIdentifier (List.all_eq_true.1 h segment hmem))

end Kotlin

namespace Factory
open Kotlin

/-- Nothing that a factory takes over from names and types has backticks, but for hard
keywords between two. -/
structure QuotesKeywordsOnly (factory : Factory) : Prop where
  name : backticks factory.name = 0
  className : backticks factory.className = 0
  package : ∃ segments, (∀ segment ∈ segments, PlainOrQuoted segment) ∧
    factory.package = dotted segments
  names : ∀ parameter ∈ factory.parameters, PlainOrQuoted parameter.name
  types : ∀ parameter ∈ factory.parameters, backticks parameter.type = 0

variable {factory : Factory}

/-- The backticks of the parameters' names. -/
def nameBackticks (factory : Factory) : Nat :=
  (factory.parameters.map fun parameter => backticks parameter.name).sum

/-- **The backticks of a factory**: a parameter's name is written four times, and what else
may have backticks once. -/
theorem QuotesKeywordsOnly.backticks_source (h : factory.QuotesKeywordsOnly) :
    backticks factory.source =
      backticks factory.marker + backticks factory.package + backticks factory.interface +
        backticks factory.baseType + 4 * factory.nameBackticks := by
  have htypes : factory.typeCount backtick = 0 := List.sum_eq_zero (List.forall_mem_map.2 h.types)
  have hnames : factory.name.toList.count backtick + factory.className.toList.count backtick = 0 :=
    congrArg₂ (· + ·) h.name h.className
  have hbreak : backtick ≠ '\n' := by decide
  rw [backticks, factory.count_source (by decide), htypes, hnames, if_neg hbreak, Nat.mul_zero]
  rfl

/-- The factory of a sound shape takes over no backticks. -/
theorem quotesKeywordsOnly_ofShape {shape : Shape} (h : shape.defect? = none)
    (settings : Settings) : (ofShape settings shape).QuotesKeywordsOnly := by
  obtain ⟨hname, _, hpackage, _, _⟩ := (Shape.defect?_eq_none_iff shape).1 h
  have hname := backticks_of_isIdentifier hname
  refine ⟨?_, hname, ⟨_, ?_, rfl⟩, ?_, ?_⟩
  · show backticks (shape.className ++ "Factory") = 0
    rw [backticks_append, hname, backticks_of_not_mem (by decide)]
  · refine List.forall_mem_map.2 fun segment hmem => ?_
    exact plainOrQuoted_escape (backticks_of_isIdentifier (List.all_eq_true.1 hpackage segment hmem))
  · exact List.forall_mem_map.2 fun parameter _ => plainOrQuoted_escape (backticks_strip _)
  · exact List.forall_mem_map.2 fun parameter _ => backticks_strip _

theorem nameBackticks_ofShape (settings : Settings) (shape : Shape) :
    (ofShape settings shape).nameBackticks =
      2 * shape.parameters.countP fun parameter => isHardKeyword (strip parameter.name) := by
  rw [nameBackticks, ofShape, List.map_map]
  refine sum_map_eq_mul_countP fun parameter _ => ?_
  rw [Function.comp_apply, backticks_escape (backticks_strip parameter.name)]

/-- Stripping a shape first makes no other factory. -/
theorem ofShape_strip (settings : Settings) (shape : Shape) :
    ofShape settings shape.strip = ofShape settings shape := by
  simp only [ofShape, Shape.strip, Shape.factoryName, List.map_map, Function.comp_def,
    Parameter.strip, strip_strip]

end Factory

namespace Generator

variable (generator : Generator)

/-- What a made-up shape comes to: it is refused for its first defect, or rendered. -/
theorem generate_eq (shape : Shape) :
    generator.generate shape = match shape.defect? with
      | none => generator.render shape
      | some defect => .error (shape.problem defect) := by
  simp only [generate, Shape.check]
  cases shape.defect? <;> rfl

/-- Stripping a shape first renders no other file. -/
theorem render_strip (shape : Shape) : generator.render shape.strip = generator.render shape := by
  rw [render_eq, render_eq, Factory.ofShape_strip]
  rfl

/-- Usable settings make a generator of theirs with the built-in template. -/
theorem exists_ofSettings {settings : Settings} (h : settings.defect? = none) :
    ∃ generator, ofSettings settings = .ok generator ∧ generator.settings = settings ∧
      generator.library = Library.standard :=
  ⟨⟨settings, Library.standard, h⟩, ofSettings_of_sound h _, rfl, rfl⟩

/-- A report on one symbol has its file, or the problem that it was refused with. -/
theorem report_singleton (symbol : Symbol) :
    generator.report [symbol] =
      ⟨(made (symbol, generator.outcome {} [] symbol)).toList,
       remarks (symbol, generator.outcome {} [] symbol)⟩ :=
  Tracks.start.process_eq symbol

/-- In an empty report, what comes through the gate is rendered. -/
theorem outcome_start (symbol : Symbol) :
    generator.outcome {} [] symbol =
      (symbol.shape generator.settings.baseType).bind generator.render := by
  unfold outcome
  cases symbol.shape generator.settings.baseType <;> rfl

variable {generator} {symbol : Symbol}

/-- A class that extends the base type meets the rules for shapes only. -/
theorem outcome_start_of_class (hkind : symbol.kind = .regularClass)
    (hsupertype : symbol.supertype = some generator.settings.baseType) :
    generator.outcome {} [] symbol =
      generator.generate (symbol.rawShape generator.settings.baseType).strip := by
  rw [outcome_start, generate_eq]
  simp only [Symbol.shape, hkind, hsupertype, SymbolKind.isClass, Bool.not_true,
    Bool.false_eq_true, if_false, ne_eq, not_true_eq_false]
  cases (symbol.rawShape generator.settings.baseType).strip.defect? <;> rfl

/-- A made-up shape and the same without backticks have the same file, or are both refused
for the same rule. -/
theorem generate_strip_cases (shape : Shape) :
    (shape.defect? = none ∧ generator.generate shape = generator.render shape ∧
      generator.generate shape.strip = generator.render shape) ∨
    ∃ rule, shape.BreaksFirst rule ∧ shape.strip.BreaksFirst rule ∧
      generator.generate shape = .error (shape.problem (shape.told rule)) ∧
      generator.generate shape.strip = .error (shape.problem (shape.strip.told rule)) := by
  cases hdefect : shape.defect? with
  | none =>
    have hstripped := Shape.defect?_strip_eq_none_iff.2 hdefect
    exact .inl ⟨rfl, generate_of_sound _ hdefect,
      (generate_of_sound _ hstripped).trans (generator.render_strip shape)⟩
  | some defect =>
    obtain ⟨rule, hfirst, rfl⟩ := Shape.exists_first_of_defect? hdefect
    have hfirst' := (Shape.breaksFirst_strip_iff rule).2 hfirst
    have hdefect' := (Shape.defect?_eq_some_iff _).2 ⟨rule, hfirst', rfl⟩
    refine .inr ⟨rule, hfirst, hfirst', ?_, ?_⟩
    · rw [generate_eq, hdefect]
    · rw [generate_eq, hdefect']
      rfl

/-- Whenever one of the two is generated, so is the other, as the same file. -/
theorem generate_strip_of_ok {shape : Shape} {file : SourceFile}
    (h : generator.generate shape = .ok file ∨ generator.generate shape.strip = .ok file) :
    generator.generate shape = generator.generate shape.strip := by
  rcases generator.generate_strip_cases shape with ⟨_, hraw, hstripped⟩ | ⟨_, _, _, hraw, hstripped⟩
  · rw [hraw, hstripped]
  · rw [hraw, hstripped] at h
    rcases h with h | h <;> cases h

/-- With the built-in template, a class that extends the base type has the file of its shape
as the one file of its report, or both ways refuse it for the same rule. -/
theorem report_cases (hlibrary : generator.library = Library.standard)
    (hkind : symbol.kind = .regularClass)
    (hsupertype : symbol.supertype = some generator.settings.baseType) {raw : Shape}
    (hshape : raw = symbol.rawShape generator.settings.baseType) :
    (∃ file, generator.generate raw = .ok file ∧
      (generator.report [symbol]).files = [file] ∧
      (generator.report [symbol]).diagnostics = remarks (symbol, .ok file)) ∨
    ∃ rule, raw.BreaksFirst rule ∧ raw.strip.BreaksFirst rule ∧
      generator.generate raw = .error (raw.problem (raw.told rule)) ∧
      (generator.report [symbol]).files = [] ∧
      (generator.report [symbol]).diagnostics =
        remarks (symbol, .error (raw.problem (raw.strip.told rule))) := by
  -- The report is about the stripped shape, which the gate has checked instead of the raw one.
  rw [report_singleton, outcome_start_of_class hkind hsupertype, ← hshape]
  rcases generator.generate_strip_cases raw with
    ⟨_, hraw, hstripped⟩ | ⟨rule, hfirst, hfirst', hraw, hstripped⟩
  · rw [generator.render_standard hlibrary] at hraw hstripped
    rw [hstripped]
    exact .inl ⟨_, hraw, rfl, rfl⟩
  · rw [hstripped]
    exact .inr ⟨rule, hfirst, hfirst', hraw, rfl, rfl⟩

/-- In a file that is generated, all backticks are those of the settings and those that hard
keywords were given. -/
theorem backticks_of_generate (hlibrary : generator.library = Library.standard) {shape : Shape}
    {file : SourceFile} (h : generator.generate shape = .ok file) :
    file.text = (Factory.ofShape generator.settings shape).source ∧
      (Factory.ofShape generator.settings shape).QuotesKeywordsOnly ∧
      Kotlin.backticks file.text =
        Kotlin.backticks generator.settings.marker +
          Kotlin.backticks generator.settings.factoryInterface +
          Kotlin.backticks generator.settings.baseType +
          2 * (Kotlin.packageSegments shape.package).countP Kotlin.isHardKeyword +
          8 * shape.parameters.countP fun parameter =>
            Kotlin.isHardKeyword (Kotlin.strip parameter.name) := by
  rcases generator.generate_strip_cases shape with ⟨hsound, hraw, _⟩ | ⟨_, _, _, hraw, _⟩
  · rw [hraw, generator.render_standard hlibrary, Except.ok.injEq] at h
    have htext : file.text = (Factory.ofShape generator.settings shape).source := by rw [← h]
    have hquotes := Factory.quotesKeywordsOnly_ofShape hsound generator.settings
    have hpackage := ((Shape.defect?_eq_none_iff shape).1 hsound).2.2.1
    refine ⟨htext, hquotes, ?_⟩
    rw [htext, hquotes.backticks_source, Factory.nameBackticks_ofShape]
    simp only [Factory.ofShape, Kotlin.backticks_escapePackage hpackage]
    omega
  · rw [hraw] at h
    cases h

/-- **Making up a shape and reporting a symbol come to the same**, for usable settings and
a class that extends the base type. Let the shape be the symbol's, backticks included. It is
generated just if it is the one file of the report, byte for byte; otherwise both ways stop
at the same rule, the one telling the shape as given and the other the shape without
backticks. So a shape and its stripped form have the same file, if one of them has any, and
a backtick of that file belongs to the settings or stands around a hard keyword. -/
theorem generate_agrees_report (settings : Settings) (symbol : Symbol)
    (hsettings : settings.defect? = none) (hkind : symbol.kind = .regularClass)
    (hsupertype : symbol.supertype = some settings.baseType) :
    ∃ generator, ofSettings settings = .ok generator ∧
      let raw : Shape :=
        ⟨symbol.name, symbol.package, settings.baseType, symbol.parameters.getD []⟩
      let report := generator.report [symbol]
      (∀ file, generator.generate raw = .ok file ↔ report.files = [file]) ∧
      ((∃ file, generator.generate raw = .ok file ∧ report.files = [file] ∧
          report.errors = []) ∨
        ∃ rule, raw.BreaksFirst rule ∧ raw.strip.BreaksFirst rule ∧
          generator.generate raw = .error (.invalidShape symbol.name (raw.told rule).message) ∧
          report.files = [] ∧
          report.diagnostics = [⟨.error, .invalidShape, symbol.qualifiedName,
            (Problem.invalidShape symbol.name (raw.strip.told rule).message).message⟩]) ∧
      (∀ file, generator.generate raw = .ok file ∨ generator.generate raw.strip = .ok file →
        generator.generate raw = generator.generate raw.strip) ∧
      (∀ file, generator.generate raw = .ok file →
        file.text = (Factory.ofShape settings raw).source ∧
        (Factory.ofShape settings raw).QuotesKeywordsOnly ∧
        Kotlin.backticks file.text =
          Kotlin.backticks settings.marker + Kotlin.backticks settings.factoryInterface +
            Kotlin.backticks settings.baseType +
            2 * (Kotlin.packageSegments symbol.package).countP Kotlin.isHardKeyword +
            8 * (symbol.parameters.getD []).countP fun parameter =>
              Kotlin.isHardKeyword (Kotlin.strip parameter.name)) := by
  obtain ⟨generator, hnew, rfl, hlibrary⟩ := exists_ofSettings hsettings
  refine ⟨generator, hnew, ?_⟩
  intro raw report
  have hshape : raw = symbol.rawShape generator.settings.baseType := rfl
  have hcases := report_cases hlibrary hkind hsupertype hshape
  refine ⟨fun file => ?_, ?_, fun _ => generate_strip_of_ok,
    fun file h => backticks_of_generate hlibrary h⟩
  · rcases hcases with ⟨made, hraw, hfiles, _⟩ | ⟨_, _, _, hraw, hfiles, _⟩
    · rw [hraw, hfiles, Except.ok.injEq, List.cons.injEq, and_iff_left rfl]
    · rw [hraw, hfiles]
      exact iff_of_false (fun h => nomatch h) (List.cons_ne_nil _ _).symm
  · rcases hcases with ⟨made, hraw, hfiles, hdiagnostics⟩ |
      ⟨rule, hfirst, hfirst', hraw, hfiles, hdiagnostics⟩
    · refine .inl ⟨made, hraw, hfiles, ?_⟩
      rw [Report.errors, hdiagnostics]
      exact errors_remarks_ok symbol made
    · exact .inr ⟨rule, hfirst, hfirst', hraw, hfiles, hdiagnostics⟩

/-- A class in a package with a keyword in its name, with a parameter named by another and
typed with backticks: two of the ten backticks are around the one, eight around the other. -/
theorem generate_agrees_report_of_keywords :
    let settings : Settings := {}
    let symbol : Symbol :=
      { name := "A", package := "p.in", supertype := some settings.baseType,
        parameters := some [⟨"`is`", "`p`.T"⟩, ⟨"`x`", "B"⟩] }
    let raw : Shape := ⟨"A", "p.in", settings.baseType, [⟨"`is`", "`p`.T"⟩, ⟨"`x`", "B"⟩]⟩
    settings.defect? = none ∧ symbol.kind = .regularClass ∧
      symbol.supertype = some settings.baseType ∧
      ∃ generator file, ofSettings settings = .ok generator ∧
        generator.generate raw = .ok file ∧ generator.generate raw.strip = .ok file ∧
        (generator.report [symbol]).files = [file] ∧ Kotlin.backticks file.text = 10 := by
  intro settings symbol raw
  have hsettings : settings.defect? = none := by decide +kernel
  have hsound : raw.defect? = none := by decide +kernel
  refine ⟨hsettings, rfl, rfl, ?_⟩
  obtain ⟨generator, hnew, hfiles, hcases, hstrip, hbackticks⟩ :=
    generate_agrees_report settings symbol hsettings rfl rfl
  rcases hcases with ⟨file, hraw, hreport, _⟩ | ⟨rule, hfirst, _⟩
  · refine ⟨generator, file, hnew, hraw, (hstrip file (.inl hraw)).symm.trans hraw, hreport, ?_⟩
    rw [(hbackticks file hraw).2.2]
    decide +kernel
  · exact absurd hfirst.broken (Shape.not_breaks_of_sound hsound rule)

end Generator
end FactoryGen

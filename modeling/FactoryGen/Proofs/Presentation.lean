import FactoryGen.Proofs.Batch
import FactoryGen.Proofs.Source

/-! How factories look does not decide who gets one.

Two generators with the same base type let the same symbols through the gate. They may
write different texts, but a report tells a duplicate by the places of its files, and the
place of a file is that of its class, whatever the text. So reports that agree but for
texts (`Report.Alike`) stay so with every symbol that both generators can render
(`Report.Alike.process`), and a batch leaves no trace of the marker, the interface, the
strategy or the template but in the texts (`reports_alike`). -/
namespace FactoryGen

/-- Two reports differ at most in the texts of their files. -/
structure Report.Alike (report other : Report) : Prop where
  diagnostics : report.diagnostics = other.diagnostics
  places : report.files.map SourceFile.place = other.files.map SourceFile.place

/-- If a symbol comes through the gate, then its factory can be rendered. -/
def Generator.Renders (generator : Generator) (symbol : Symbol) : Prop :=
  ∀ shape, symbol.shape generator.settings.baseType = .ok shape →
    ∃ file, generator.render shape = .ok file

namespace Report
variable {report report' : Report}

theorem Alike.covers_eq (h : Alike report report') (shape : Shape) :
    report.covers shape = report'.covers shape := by
  have hany (files : List SourceFile) :
      files.any (·.place == shape.place) = (files.map SourceFile.place).any (· == shape.place) := by
    rw [List.any_map]
    rfl
  rw [Report.covers_eq, Report.covers_eq, hany, hany, h.places]

theorem Alike.note (h : Alike report report') (diagnostic : Diagnostic) :
    Alike (report.note diagnostic) (report'.note diagnostic) := by
  refine ⟨?_, h.places⟩
  rw [diagnostics_note, diagnostics_note, h.diagnostics]

theorem Alike.add (h : Alike report report') {file file' : SourceFile}
    (hplace : file.place = file'.place) : Alike (report.add file) (report'.add file') := by
  refine ⟨h.diagnostics, ?_⟩
  rw [files_add, files_add, List.map_append, List.map_append, h.places, List.map_singleton,
    List.map_singleton, hplace]

theorem Alike.place_eq (h : Alike report report') {index : Nat} {file file' : SourceFile}
    (hfile : report.files[index]? = some file) (hfile' : report'.files[index]? = some file') :
    file.place = file'.place := by
  have hplace := congrArg (·[index]?) h.places
  simp only [List.getElem?_map, hfile, hfile', Option.map_some, Option.some.injEq] at hplace
  exact hplace

end Report

namespace Generator
variable {generator other : Generator} {report report' : Report} {symbol : Symbol}

/-- In view of reports that are alike, two generators refuse a symbol for the same cause,
or give it files in the same place. -/
theorem file_alike (hbase : generator.settings.baseType = other.settings.baseType)
    (h : report.Alike report') (hrenders : generator.Renders symbol)
    (hrenders' : other.Renders symbol) :
    (∃ problem, generator.file report symbol = .error problem ∧
      other.file report' symbol = .error problem) ∨
    ∃ file file', generator.file report symbol = .ok file ∧ other.file report' symbol = .ok file' ∧
      file.place = file'.place := by
  simp only [file, bind, Except.bind, ← hbase, ← h.covers_eq]
  cases hpasses : symbol.shape generator.settings.baseType with
  | error problem => exact .inl ⟨problem, rfl, rfl⟩
  | ok shape =>
    dsimp only
    cases hcovers : report.covers shape with
    | true => exact .inl ⟨_, rfl, rfl⟩
    | false =>
      obtain ⟨file, hfile⟩ := hrenders shape hpasses
      obtain ⟨file', hfile'⟩ := hrenders' shape (hbase ▸ hpasses)
      refine .inr ⟨file, file', hfile, hfile', ?_⟩
      rw [generator.place_of_render hfile, other.place_of_render hfile']

/-- One symbol keeps reports alike. -/
theorem process_alike (hbase : generator.settings.baseType = other.settings.baseType)
    (h : report.Alike report') (hrenders : generator.Renders symbol)
    (hrenders' : other.Renders symbol) :
    (generator.process report symbol).Alike (other.process report' symbol) := by
  unfold process
  rcases file_alike hbase h hrenders hrenders' with
    ⟨problem, hfile, hfile'⟩ | ⟨file, file', hfile, hfile', hplace⟩
  · rw [hfile, hfile']
    exact h.note _
  · rw [hfile, hfile']
    dsimp only
    split
    · exact (h.note _).add hplace
    · exact h.add hplace

/-- So does a batch. -/
theorem foldl_process_alike (hbase : generator.settings.baseType = other.settings.baseType)
    {symbols : List Symbol}
    (hrenders : ∀ symbol ∈ symbols, generator.Renders symbol ∧ other.Renders symbol)
    (h : report.Alike report') :
    (symbols.foldl generator.process report).Alike (symbols.foldl other.process report') := by
  induction symbols generalizing report report' with
  | nil => exact h
  | cons symbol rest ih =>
    obtain ⟨hsymbol, hrest⟩ := List.forall_mem_cons.1 hrenders
    exact ih hrest (process_alike hbase h hsymbol.1 hsymbol.2)

/-- **Presentation does not decide acceptance.** Two generators with the same base type say
the same about a batch and give as many files, as long as both can render whatever comes
through the gate; each file has the name, the package and the path of its counterpart, and
differs from it in its text or not at all. Marker, interface, strategy and templates are
free. -/
theorem reports_alike (generator other : Generator)
    (hbase : generator.settings.baseType = other.settings.baseType) (symbols : List Symbol)
    (hrenders : ∀ symbol ∈ symbols, generator.Renders symbol ∧ other.Renders symbol) :
    (generator.report symbols).diagnostics = (other.report symbols).diagnostics ∧
    (generator.report symbols).files.length = (other.report symbols).files.length ∧
    ∀ (index : Nat) (file file' : SourceFile),
      (generator.report symbols).files[index]? = some file →
      (other.report symbols).files[index]? = some file' →
      file.name = file'.name ∧ file.package = file'.package ∧ file.path = file'.path ∧
        file' = { file with text := file'.text } := by
  have halike : (generator.report symbols).Alike (other.report symbols) :=
    foldl_process_alike hbase hrenders ⟨rfl, rfl⟩
  refine ⟨halike.diagnostics, ?_, ?_⟩
  · simpa only [List.length_map] using congrArg List.length halike.places
  · intro index file file' hfile hfile'
    obtain ⟨hname, hpackage⟩ := Prod.mk.inj (halike.place_eq hfile hfile')
    refine ⟨hname, hpackage, ?_, ?_⟩
    · rw [SourceFile.path, SourceFile.path, hname, hpackage]
    · rw [hname, hpackage]

/-- A template that every factory can be filled into never stands in the way. -/
theorem renders_of_total {rendering : Template.Rendering}
    (hfind : generator.library.find? Library.factoryName = some rendering)
    (htotal : ∀ factory : Factory, ∃ text, rendering factory.toJson = .ok text)
    (symbol : Symbol) : generator.Renders symbol := by
  intro shape _
  obtain ⟨text, htext⟩ := htotal (Factory.ofShape generator.settings shape)
  have hrender : generator.library.render Library.factoryName
      (Factory.ofShape generator.settings shape).toJson = .ok text := by
    rw [Library.render, hfind]
    dsimp only
    rw [htext]
    rfl
  rw [render_eq, hrender]
  exact ⟨_, rfl⟩

/-- The built-in template beside one of a single line. Of the symbols, the first gets a file
with a warning, the second is its duplicate, and the third is no class. -/
theorem reports_alike_of_overridden :
    ∃ (library : Library) (generator other : Generator) (symbols : List Symbol),
      Library.standard.register Library.factoryName "// \x7b\x7bclass_name\x7d\x7d" =
        .ok library ∧
      ofSettings {} = .ok generator ∧
      ofSettings { factoryInterface := "x.F", marker := "x", strategy := .checked } library =
        .ok other ∧
      symbols = [{ name := "A", supertype := some "androidx.lifecycle.ViewModel" },
        { name := "A", supertype := some "androidx.lifecycle.ViewModel", parameters := some [] },
        { name := "B", kind := .interface }] ∧
      generator.settings.baseType = other.settings.baseType ∧
      (∀ symbol ∈ symbols, generator.Renders symbol ∧ other.Renders symbol) ∧
      (other.report symbols).files = [⟨"AFactory", "", "// A"⟩] ∧
      (generator.report symbols).diagnostics = (other.report symbols).diagnostics ∧
      (generator.report symbols).files.length = (other.report symbols).files.length ∧
      ∀ (index : Nat) (file file' : SourceFile),
        (generator.report symbols).files[index]? = some file →
        (other.report symbols).files[index]? = some file' →
        file.name = file'.name ∧ file.package = file'.package ∧ file.path = file'.path ∧
          file' = { file with text := file'.text } := by
  have hregister : Library.standard.register Library.factoryName "// \x7b\x7bclass_name\x7d\x7d" =
      .ok (Library.standard.insert Library.factoryName
        (Template.render [.text "// ", .value (.member "class_name")])) := by
    have hread : Template.read "// \x7b\x7bclass_name\x7d\x7d" =
        some [.text "// ", .value (.member "class_name")] := by rfl
    rw [Library.register, hread]
  refine ⟨_, _, _, _, hregister, ofSettings_of_sound (by decide +kernel) _,
    ofSettings_of_sound (by decide +kernel) _, rfl, rfl, ?_⟩
  have hall (usable usable') (symbol : Symbol) :
      Renders ⟨{}, Library.standard, usable⟩ symbol ∧
      Renders ⟨{ factoryInterface := "x.F", marker := "x", strategy := .checked },
        Library.standard.insert Library.factoryName
          (Template.render [.text "// ", .value (.member "class_name")]), usable'⟩ symbol := by
    refine ⟨fun shape _ => ⟨_, render_standard _ rfl shape⟩, renders_of_total rfl ?_ symbol⟩
    intro factory
    refine ⟨String.join ["// ", factory.className], ?_⟩
    show Template.renderNodes factory.toJson [] [.text "// ", .value (.member "class_name")] = _
    exact Template.renderNodes_text (factory.renderNodes_top rfl Template.renderNodes_nil)
  refine ⟨fun symbol _ => hall _ _ symbol, ?_, ?_⟩
  · decide +kernel
  · refine reports_alike _ _ ?_ _ ?_
    · rfl
    · exact fun symbol _ => hall _ _ symbol

end Generator
end FactoryGen

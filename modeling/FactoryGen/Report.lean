import FactoryGen.Diagnostic
import FactoryGen.Generator

/-! Reports: what came of a list of symbols.

Symbols are processed one by one. Each adds at its end of the report a file, if
everything went well, or an error; a file whose class has no constructor comes
with a warning. A class that already has its file is not given another one, and
nothing that is in a report already is ever changed. -/
namespace FactoryGen

/-- The files made and the things to say so far. -/
structure Report where
  files : List SourceFile := []
  diagnostics : List Diagnostic := []
deriving DecidableEq, Repr, Inhabited

namespace Report

def errors (report : Report) : List Diagnostic := report.diagnostics.filter (·.isError)

def errorCount (report : Report) : Nat := report.errors.length

def warningCount (report : Report) : Nat :=
  (report.diagnostics.filter (·.severity == .warning)).length

/-- Whether some symbol was rejected. -/
def hasErrors (report : Report) : Bool := report.diagnostics.any (·.isError)

/-- Whether the class of a shape already has its file. -/
def covers (report : Report) (shape : Shape) : Bool :=
  report.files.any fun file =>
    file.name == shape.factoryName && file.package == shape.package

/-- The report with one more diagnostic. -/
def note (report : Report) (diagnostic : Diagnostic) : Report :=
  { report with diagnostics := report.diagnostics ++ [diagnostic] }

/-- The report with one more file. -/
def add (report : Report) (file : SourceFile) : Report :=
  { report with files := report.files ++ [file] }

@[simp]
theorem diagnostics_note (report : Report) (diagnostic : Diagnostic) :
    (report.note diagnostic).diagnostics = report.diagnostics ++ [diagnostic] := rfl

@[simp]
theorem files_add (report : Report) (file : SourceFile) :
    (report.add file).files = report.files ++ [file] := rfl

end Report

/-- The file for a symbol, in view of what a report already has. -/
def Generator.file (generator : Generator) (report : Report) (symbol : Symbol) :
    Except Problem SourceFile := do
  let shape ← symbol.shape generator.settings.baseType
  if report.covers shape then
    .error (.invalidShape shape.className ("duplicate symbol '" ++ shape.qualifiedName ++ "'"))
  else generator.render shape

/-- The report after one more symbol. -/
def Generator.process (generator : Generator) (report : Report) (symbol : Symbol) : Report :=
  match generator.file report symbol with
  | .error problem => report.note (.ofProblem symbol.qualifiedName problem)
  | .ok file =>
    if symbol.parameters.isNone then
      (report.note (.ofProblem symbol.qualifiedName (.missingConstructor symbol.name))).add file
    else report.add file

/-- The report on some symbols. -/
def Generator.report (generator : Generator) (symbols : List Symbol) : Report :=
  symbols.foldl generator.process {}

end FactoryGen

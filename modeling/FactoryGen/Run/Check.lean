import FactoryGen.Run.Loading

/-! Checking a manifest: what a run would have to say, without any file. -/
namespace FactoryGen.Run

/-- What a check found out. -/
structure CheckSummary where
  manifest : String
  symbols : Nat
  /-- The number of symbols that would get a file. -/
  valid : Nat
  errors : Nat
  warnings : Nat
  diagnostics : List Diagnostic
deriving DecidableEq, Repr, Inhabited

namespace CheckSummary

/-- The summary of what was processed. -/
def ofProcessed (path : String) (processed : Processed) : CheckSummary where
  manifest := path
  symbols := processed.manifest.symbols.length
  valid := processed.report.files.length
  errors := processed.report.errorCount
  warnings := processed.report.warningCount
  diagnostics := processed.report.diagnostics

def exitCode (summary : CheckSummary) : ExitCode :=
  if 0 < summary.errors then .diagnostics else .success

def toJson (summary : CheckSummary) : Json :=
  .object
    [("manifest", .text summary.manifest),
     ("symbols", .ofNat summary.symbols),
     ("valid", .ofNat summary.valid),
     ("errors", .ofNat summary.errors),
     ("warnings", .ofNat summary.warnings),
     ("diagnostics", .list (summary.diagnostics.map Diagnostic.toJson))]

end CheckSummary

/-- Checks the manifest at a path, given what reading the path gave. -/
def checkReading (path : String) (reading : Except String String) :
    Except Failure CheckSummary :=
  (process path reading).map (CheckSummary.ofProcessed path)

def check (tree : FileTree) (path : String) : Except Failure CheckSummary :=
  checkReading path (tree.reading path)

end FactoryGen.Run

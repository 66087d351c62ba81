import FactoryGen.FileTree.Delivery
import FactoryGen.Run.Loading

/-! Generating the factories of a manifest.

A dry run does all but deliver the files, and tells where they would go. -/
namespace FactoryGen.Run

/-- Where files go if nothing else is said. -/
def defaultDirectory : String := "build/generated/producible"

/-- What to generate. -/
structure Order where
  manifest : String
  directory : String := defaultDirectory
  dry : Bool := false
deriving DecidableEq, Repr, Inhabited

/-- What a generation did. -/
structure GenerationSummary where
  manifest : String
  directory : String
  dry : Bool
  symbols : Nat
  /-- Where the files went. -/
  files : List String
  errors : Nat
  warnings : Nat
  diagnostics : List Diagnostic
deriving DecidableEq, Repr, Inhabited

namespace GenerationSummary

/-- The summary of what was processed, with the files in the given places. -/
def ofProcessed (order : Order) (processed : Processed) (files : List String) :
    GenerationSummary where
  manifest := order.manifest
  directory := order.directory
  dry := order.dry
  symbols := processed.manifest.symbols.length
  files := files
  errors := processed.report.errorCount
  warnings := processed.report.warningCount
  diagnostics := processed.report.diagnostics

def exitCode (summary : GenerationSummary) : ExitCode :=
  if 0 < summary.errors then .diagnostics else .success

def toJson (summary : GenerationSummary) : Json :=
  .object
    [("manifest", .text summary.manifest),
     ("output_dir", .text summary.directory),
     ("dry_run", .bool summary.dry),
     ("symbols", .ofNat summary.symbols),
     ("files", .list (summary.files.map .text)),
     ("errors", .ofNat summary.errors),
     ("warnings", .ofNat summary.warnings),
     ("diagnostics", .list (summary.diagnostics.map Diagnostic.toJson))]

end GenerationSummary

def dryRun (order : Order) (processed : Processed) : GenerationSummary :=
  .ofProcessed order processed (processed.report.files.map (·.pathIn order.directory))

/-- The end of a run that delivered its files, or tried to. -/
def conclude (order : Order) (processed : Processed) (delivered : Except Problem (List String)) :
    Except Failure GenerationSummary :=
  match delivered with
  | .error problem => .error ⟨["failed to write into " ++ order.directory], problem⟩
  | .ok files => .ok (.ofProcessed order processed files)

def generate (tree : FileTree) (order : Order) : FileTree × Except Failure GenerationSummary :=
  match process order.manifest (tree.reading order.manifest) with
  | .error failure => (tree, .error failure)
  | .ok processed =>
    if order.dry then (tree, .ok (dryRun order processed))
    else
      let (tree, delivered) := tree.deliverAll order.directory processed.report.files
      (tree, conclude order processed delivered)

end FactoryGen.Run

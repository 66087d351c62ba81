import FactoryGen.Command.Execution
import FactoryGen.Command.Help

/-! The program: what `Command.run` does to a file tree, done to the real one. Here are
only the readings and writings; everything that is decided is decided elsewhere. -/
namespace FactoryGen.Program

def wording : IO.Error → String
  | .noFileOrDirectory .. => Refusal.notFound.message
  | .alreadyExists .. => Refusal.exists.message
  | .inappropriateType _ code details =>
    if code = 20 then Refusal.notADirectory.message
    else if code = 21 then Refusal.isADirectory.message
    else details
  | error => toString error

def reading (path : String) : IO (Except String String) := do
  try
    match String.fromUTF8? (← IO.FS.readBinFile path) with
    | some text => return .ok text
    | none => return .error Refusal.notText.message
  catch error => return .error (wording error)

/-- Does something to a path. -/
def attempt (path : String) (action : IO Unit) : ExceptT Problem IO Unit := do
  match ← action.toBaseIO with
  | .ok () => return ()
  | .error error => throw (.input path (wording error))

/-- Delivers some files, and tells where they went. -/
def deliverAll (directory : String) (files : List SourceFile) :
    ExceptT Problem IO (List String) :=
  files.mapM fun file => do
    let path := file.pathIn directory
    if let some parent := Path.parent? path then
      if parent ≠ "" then attempt parent (IO.FS.createDirAll parent)
    attempt path (IO.FS.writeFile path file.text)
    return path

def generate (order : Run.Order) : IO (Except Failure Run.GenerationSummary) := do
  match Run.process order.manifest (← reading order.manifest) with
  | .error failure => return .error failure
  | .ok processed =>
    if order.dry then return .ok (Run.dryRun order processed)
    else
      let delivered ← deliverAll order.directory processed.report.files
      return Run.conclude order processed delivered

def emit (outcome : Command.Outcome) : IO UInt32 := do
  IO.eprint outcome.errors
  IO.print outcome.output
  return UInt32.ofNat outcome.code.number

/-- Executes a request in a format. -/
def execute (texts : Command.Texts) (format : Output.Format) : Command.Request → IO UInt32
  | .check manifest => do
    let colours ← (← IO.getStdout).isTty
    emit (.ofCheck format colours (Run.checkReading manifest (← reading manifest)))
  | .generate order => do
    let colours ← (← IO.getStdout).isTty
    emit (.ofGeneration format colours (← generate order))
  | .complete shell => do
    IO.print (texts.completions shell)
    return 0

/-- Runs a command line. -/
def run (texts : Command.Texts) (arguments : List String) : IO UInt32 := do
  match Command.Invocation.read arguments with
  | .error .help => IO.print texts.help; return 0
  | .error .version => IO.print Command.versionLine; return 0
  | .error .usage => IO.eprint texts.usage; return 2
  | .ok invocation =>
    match Output.Format.parse invocation.format with
    | .error problem => emit (.ofFailure ⟨[], problem⟩)
    | .ok format => execute texts format invocation.request

end FactoryGen.Program

import FactoryGen.Command.Invocation
import FactoryGen.Output.Format
import FactoryGen.Run.Check

/-! Executing what a command line asks for.

The format of output is looked at before anything else happens. Diagnostics go to
the stream for errors, except when the output is JSON, which has them anyway; a
failure is told there too, and then nothing is written to the stream for output. -/
namespace FactoryGen.Command

/-- What a run leaves behind: its two streams and its exit code. -/
structure Outcome where
  output : String := ""
  errors : String := ""
  code : ExitCode
deriving DecidableEq, Repr, Inhabited

namespace Outcome

def ofFailure (failure : Failure) : Outcome where
  errors := "error: " ++ failure.text ++ "\n"
  code := failure.exitCode

/-- The outcome of a run with a summary. -/
def ofSummary (format : Output.Format) (colours : Bool) (summary : Json)
    (diagnostics : List Diagnostic) (code : ExitCode) : Outcome where
  output := format.write colours summary ++ "\n"
  errors :=
    if format = .json then ""
    else
      String.join
        (diagnostics.map fun diagnostic => format.diagnosticLine colours diagnostic ++ "\n")
  code := code

def ofCheck (format : Output.Format) (colours : Bool)
    (result : Except Failure Run.CheckSummary) : Outcome :=
  match result with
  | .error failure => ofFailure failure
  | .ok summary =>
    ofSummary format colours summary.toJson summary.diagnostics summary.exitCode

def ofGeneration (format : Output.Format) (colours : Bool)
    (result : Except Failure Run.GenerationSummary) : Outcome :=
  match result with
  | .error failure => ofFailure failure
  | .ok summary =>
    ofSummary format colours summary.toJson summary.diagnostics summary.exitCode

end Outcome

/-- What a command line comes to. -/
inductive Answer where
  /-- There is nothing to run. -/
  | stopped (stop : Stop)
  /-- Completions for a shell. -/
  | completions (shell : Shell)
  | finished (outcome : Outcome)
deriving DecidableEq, Repr

/-- Executes a request in a format. -/
def execute (tree : FileTree) (colours : Bool) (format : Output.Format) :
    Request → FileTree × Answer
  | .check manifest => (tree, .finished (.ofCheck format colours (Run.check tree manifest)))
  | .generate order =>
    let (tree, result) := Run.generate tree order
    (tree, .finished (.ofGeneration format colours result))
  | .complete shell => (tree, .completions shell)

/-- Carries out an invocation. -/
def carryOut (tree : FileTree) (colours : Bool) (invocation : Invocation) : FileTree × Answer :=
  match Output.Format.parse invocation.format with
  | .error problem => (tree, .finished (.ofFailure ⟨[], problem⟩))
  | .ok format => execute tree colours format invocation.request

/-- Runs a command line on a file tree. -/
def run (tree : FileTree) (colours : Bool) (arguments : List String) : FileTree × Answer :=
  match Invocation.read arguments with
  | .error stop => (tree, .stopped stop)
  | .ok invocation => carryOut tree colours invocation

end FactoryGen.Command

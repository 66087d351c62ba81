/-! What can go wrong, and how it is worded.

A `Problem` is a single cause. On its way out it may collect notes about what was
being done (`Failure`); the full text of a failure tells the outermost note
first. The exit code of a run follows from the kind of the problem. -/
namespace FactoryGen

inductive Problem where
  /-- The annotation stands on something that is no class. -/
  | notAClass (symbol found : String)
  /-- The class extends something else, or nothing. -/
  | wrongSupertype (symbol required : String) (found : Option String)
  /-- The class has no primary constructor; it is taken to have no parameters. -/
  | missingConstructor (symbol : String)
  /-- The class cannot be given a factory for some reason. -/
  | invalidShape (symbol reason : String)
  /-- A template cannot be read or rendered. -/
  | template (detail : String) (source : Option String)
  /-- The manifest or its settings are not usable. -/
  | configuration (detail : String)
  /-- An argument has no meaning. -/
  | argument (detail : String)
  /-- The file system refused something. -/
  | input (path source : String)
deriving DecidableEq, Repr

namespace Problem

def message : Problem → String
  | .notAClass symbol found =>
    symbol ++ ": cannot annotate anything but a class (found " ++ found ++ ")"
  | .wrongSupertype symbol required _ => symbol ++ " must extend " ++ required
  | .missingConstructor symbol =>
    symbol ++ ": no primary constructor found, assuming no parameters"
  | .invalidShape symbol reason => symbol ++ ": invalid descriptor: " ++ reason
  | .template detail _ => "Template error: " ++ detail
  | .configuration detail => "Configuration error: " ++ detail
  | .argument detail => "Invalid argument: " ++ detail
  | .input path source => "I/O error at " ++ path ++ ": " ++ source

/-- The text of what caused the problem elsewhere. -/
def source : Problem → Option String
  | .template _ source => source
  | .input _ source => some source
  | _ => none

end Problem

/-- How a run ends. -/
inductive ExitCode where
  /-- Everything was done. -/
  | success
  /-- Some symbols were rejected. -/
  | diagnostics
  /-- The arguments or the manifest are wrong. -/
  | invalidInput
  /-- The file system refused something. -/
  | inputOutput
deriving DecidableEq, Repr, Inhabited

namespace ExitCode

/-- The number given to the caller. -/
def number : ExitCode → Nat
  | .success => 0
  | .diagnostics => 1
  | .invalidInput => 2
  | .inputOutput => 3

/-- Whether nothing is left to complain about. -/
def isSuccess (code : ExitCode) : Bool := code.number == 0

end ExitCode

/-- The exit code that a problem ends a run with. -/
def Problem.exitCode : Problem → ExitCode
  | .configuration _ | .argument _ => .invalidInput
  | .input .. => .inputOutput
  | _ => .diagnostics

/-- A problem and what was being done when it came up. -/
structure Failure where
  /-- The notes, the outermost first. -/
  notes : List String := []
  problem : Problem
deriving DecidableEq, Repr

namespace Failure

/-- A failure with one more note around it. -/
def within (note : String) (failure : Failure) : Failure :=
  { failure with notes := note :: failure.notes }

/-- All there is to say: the notes, the problem, and the text of its cause. -/
def text (failure : Failure) : String :=
  ": ".intercalate
    (failure.notes ++ failure.problem.message :: failure.problem.source.toList)

/-- The first thing to say. -/
def headline (failure : Failure) : String :=
  failure.notes.headD failure.problem.message

/-- The exit code does not depend on the notes. -/
def exitCode (failure : Failure) : ExitCode := failure.problem.exitCode

end Failure
end FactoryGen

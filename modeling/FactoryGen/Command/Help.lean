import FactoryGen.Command.Invocation

/-! What the program says about itself. Its help and its completions are worded by the
parser that command lines are declared for, so they come from outside. -/
namespace FactoryGen.Command

/-- Texts that do not depend on what the program does. -/
structure Texts where
  help : String
  usage : String
  completions : Shell → String

def versionLine : String := "producible 0.1.0\n"

end FactoryGen.Command

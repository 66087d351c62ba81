import FactoryGen.Command.Options
import FactoryGen.Run.Generation

/-! What a command line asks for. -/
namespace FactoryGen.Command

/-- The shells that completions can be written for. -/
inductive Shell where
  | bash
  | elvish
  | fish
  | powershell
  | zsh
deriving DecidableEq, Repr, Inhabited

namespace Shell

def name : Shell → String
  | .bash => "bash"
  | .elvish => "elvish"
  | .fish => "fish"
  | .powershell => "powershell"
  | .zsh => "zsh"

def all : List Shell := [.bash, .elvish, .fish, .powershell, .zsh]

def named? (name : String) : Option Shell := all.find? (·.name == name)

end Shell

/-- What to do. -/
inductive Request where
  | generate (order : Run.Order)
  | check (manifest : String)
  | complete (shell : Shell)
deriving DecidableEq, Repr, Inhabited

/-- What to do, and how to show what came of it. -/
structure Invocation where
  request : Request
  /-- The format of output, as the user wrote it. -/
  format : String := "pretty"
  verbose : Bool := false
deriving DecidableEq, Repr, Inhabited

/-- The program without any command. -/
def program : Grammar where
  switches := [.help, .version, .verbose]
  settings := [.format]
  hasCommands := true
  words := []

def generate : Grammar where
  switches := [.help, .verbose, .dryRun]
  settings := [.format, .manifest, .out]
  hasCommands := false
  words := []

def check : Grammar where
  switches := [.help, .verbose]
  settings := [.format, .manifest]
  hasCommands := false
  words := []

def completions : Grammar where
  switches := [.help, .verbose]
  settings := [.format]
  hasCommands := false
  words := Shell.all.map Shell.name

def names : List String := ["generate", "check", "completions", "help"]

namespace Invocation

/-- Help with a command, which has to be there, or with the program. -/
def help : List String → Stop
  | [] => .help
  | [name] => if names.contains name then .help else .usage
  | _ => .usage

/-- What to do, given the command and what was read of its arguments. -/
def requestOf (name : String) (reading : Reading) : Except Stop Request :=
  if name = "completions" then
    match reading.word.bind Shell.named? with
    | some shell => .ok (.complete shell)
    | none => .error .usage
  else
    match reading.options.manifest with
    | none => .error .usage
    | some manifest =>
      if name = "check" then .ok (.check manifest)
      else
        .ok (.generate
          { manifest
            directory := reading.options.out.getD Run.defaultDirectory
            dry := reading.options.dryRun })

/-- The arguments of a command by its name. -/
def grammar? (name : String) : Option Grammar :=
  if name = "generate" then some Command.generate
  else if name = "check" then some Command.check
  else if name = "completions" then some Command.completions
  else none

/-- What a command line asks for. Options that belong to the whole program may stand
before or behind the command; behind it they count. -/
def read (arguments : List String) : Except Stop Invocation := do
  let outer ← program.read {} arguments
  match outer.rest with
  | [] => .error .usage
  | "help" :: names => .error (help names)
  | name :: rest =>
    match grammar? name with
    | none => .error .usage
    | some command =>
      let inner ← command.read {} rest
      let request ← requestOf name inner
      return {
        request
        format := (inner.options.format.or outer.options.format).getD "pretty"
        verbose := inner.options.verbose || outer.options.verbose }

end Invocation
end FactoryGen.Command

/-! The forms of arguments on a command line.

Two dashes start an option by its name, which may bring its value behind an equals
sign; one dash starts a row of options by their letters. Two dashes alone end the
options, and everything else is a word, a lone dash too. -/
namespace FactoryGen.Command

/-- An argument by its form. -/
inductive Argument where
  | word (text : String)
  | long (name : String) (value : Option String)
  | short (letters : List Char)
  | endOfOptions
deriving DecidableEq, Repr, Inhabited

/-- What follows an equals sign, if there is one in front. -/
def valueBehind? : List Char → Option String
  | '=' :: rest => some (String.ofList rest)
  | _ => none

def Argument.of (argument : String) : Argument :=
  match argument.toList with
  | ['-', '-'] => .endOfOptions
  | '-' :: '-' :: rest =>
    .long (String.ofList (rest.takeWhile (· != '='))) (valueBehind? (rest.dropWhile (· != '=')))
  | '-' :: c :: rest => .short (c :: rest)
  | _ => .word argument

/-- Options without a value. -/
inductive Switch where
  | help
  | version
  | verbose
  | dryRun
deriving DecidableEq, Repr, Inhabited

namespace Switch

def name : Switch → String
  | .help => "help"
  | .version => "version"
  | .verbose => "verbose"
  | .dryRun => "dry-run"

/-- The letter of a switch, if it has one. -/
def letter? : Switch → Option Char
  | .help => some 'h'
  | .version => some 'V'
  | .verbose => some 'v'
  | .dryRun => none

end Switch

/-- Options with a value. -/
inductive Setting where
  | format
  | manifest
  | out
deriving DecidableEq, Repr, Inhabited

namespace Setting

def name : Setting → String
  | .format => "format"
  | .manifest => "manifest"
  | .out => "out"

/-- The letter of a setting, if it has one. -/
def letter? : Setting → Option Char
  | .format => none
  | .manifest => some 'm'
  | .out => some 'o'

end Setting

example : Argument.of "--out=a=b" = .long "out" (some "a=b") ∧ Argument.of "-" = .word "-" ∧
    Argument.of "--" = .endOfOptions ∧ Argument.of "-mx" = .short ['m', 'x'] := by decide +kernel

end FactoryGen.Command

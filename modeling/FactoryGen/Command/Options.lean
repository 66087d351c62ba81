import FactoryGen.Command.Argument

/-! Reading the options of a command.

Arguments are read from left to right, and the first one that cannot be right ends
the reading, as does a request for help. No option may be given twice. A path must
not be empty, and a value that is an argument of its own must not look like an
option. -/
namespace FactoryGen.Command

/-- Why there is nothing to run. -/
inductive Stop where
  /-- Help was asked for. -/
  | help
  /-- The version was asked for. -/
  | version
  /-- The arguments make no sense. -/
  | usage
deriving DecidableEq, Repr

/-- The options given. -/
structure Options where
  verbose : Bool := false
  dryRun : Bool := false
  format : Option String := none
  manifest : Option String := none
  out : Option String := none
deriving DecidableEq, Repr, Inhabited

namespace Options

/-- The options with a switch on. -/
def turnOn (options : Options) : Switch → Except Stop Options
  | .help => .error .help
  | .version => .error .version
  | .verbose => if options.verbose then .error .usage else .ok { options with verbose := true }
  | .dryRun => if options.dryRun then .error .usage else .ok { options with dryRun := true }

/-- The options with a value set. -/
def store (options : Options) (value : String) : Setting → Except Stop Options
  | .format =>
    if options.format.isSome then .error .usage else .ok { options with format := some value }
  | .manifest =>
    if options.manifest.isSome ∨ value = "" then .error .usage
    else .ok { options with manifest := some value }
  | .out =>
    if options.out.isSome ∨ value = "" then .error .usage
    else .ok { options with out := some value }

end Options

/-- A command as its arguments see it. -/
structure Grammar where
  switches : List Switch
  settings : List Setting
  /-- Whether the first word begins the arguments of another command. -/
  hasCommands : Bool
  /-- The words that may stand alone, of which there may be one. -/
  words : List String

/-- What was read of some arguments. -/
structure Reading where
  options : Options := {}
  word : Option String := none
  /-- The arguments of another command, its name first. -/
  rest : List String := []
deriving DecidableEq, Repr, Inhabited

namespace Grammar
variable (command : Grammar)

/-- The switch or setting with a name. -/
def named? (name : String) : Option (Switch ⊕ Setting) :=
  ((command.switches.find? (·.name == name)).map .inl).or
    ((command.settings.find? (·.name == name)).map .inr)

/-- The switch or setting with a letter. -/
def lettered? (letter : Char) : Option (Switch ⊕ Setting) :=
  ((command.switches.find? (·.letter? == some letter)).map .inl).or
    ((command.settings.find? (·.letter? == some letter)).map .inr)

/-- The options after a row of letters, and the setting that still lacks its value. The
value of a setting may follow its letter, with or without an equals sign. -/
def readLetters (options : Options) : List Char → Except Stop (Options × Option Setting)
  | [] => .ok (options, none)
  | letter :: rest =>
    match command.lettered? letter with
    | none => .error .usage
    | some (.inl switch) =>
      match options.turnOn switch with
      | .error stop => .error stop
      | .ok options => readLetters options rest
    | some (.inr setting) =>
      if rest.isEmpty then .ok (options, some setting)
      else
        let value := (valueBehind? rest).getD (String.ofList rest)
        (options.store value setting).map (·, none)

/-- The options after an option by its name, and the setting that still lacks its
value. -/
def readName (options : Options) (name : String) (value : Option String) :
    Except Stop (Options × Option Setting) :=
  match command.named? name, value with
  | none, _ => .error .usage
  | some (.inl _), some _ => .error .usage
  | some (.inl switch), none => (options.turnOn switch).map (·, none)
  | some (.inr setting), some value => (options.store value setting).map (·, none)
  | some (.inr setting), none => .ok (options, some setting)

/-- The reading with one more word. -/
def addWord (reading : Reading) (word : String) : Except Stop Reading :=
  if reading.word.isNone ∧ command.words.contains word then
    .ok { reading with word := some word }
  else .error .usage

/-- The options after an argument that is one, and the setting that still lacks its
value. -/
def readOption (options : Options) : Argument → Except Stop (Options × Option Setting)
  | .long name value => command.readName options name value
  | .short letters => command.readLetters options letters
  | _ => .error .usage

/-- What some arguments say. -/
def read (reading : Reading) : List String → Except Stop Reading
  | [] => .ok reading
  | argument :: rest =>
    match Argument.of argument with
    | .endOfOptions => rest.foldlM command.addWord reading
    | .word word =>
      if command.hasCommands then .ok { reading with rest := argument :: rest }
      else
        match command.addWord reading word with
        | .error stop => .error stop
        | .ok reading => read reading rest
    | option =>
      match command.readOption reading.options option, rest with
      | .error stop, _ => .error stop
      | .ok (options, none), rest => read { reading with options } rest
      | .ok (_, some _), [] => .error .usage
      | .ok (options, some setting), value :: rest =>
        match Argument.of value with
        | .word value =>
          match options.store value setting with
          | .error stop => .error stop
          | .ok options => read { reading with options } rest
        | _ => .error .usage

end Grammar
end FactoryGen.Command

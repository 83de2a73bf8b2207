import CHeader.Command

/-!
# Command line arguments

Options may stand before or behind the name of a command.  A long option takes its value behind
`=` or from the next argument, a short one from the rest of its argument or from the next one.
Behind `--` everything is an operand.  An option that is given on both sides of the command's name
counts where it stands behind it; on one side it may be given only once.  Whoever asks for help gets
it as soon as the request is read, whatever stands behind it.
-/

namespace CHeader

/-- A command with the options that all commands share. -/
structure Invocation where
  /-- Whether details are logged. -/
  verbose : Bool
  /-- Whether reports are colored. -/
  color : Bool
  /-- The settings file that the user asked for. -/
  config : Option Path
  /-- The command. -/
  command : Command
  deriving DecidableEq, Repr

namespace Arguments

/-- The names of the commands. -/
inductive CommandName where
  | parse
  | structs
  | enums
  | defines
  | splitType
  | completions
  deriving DecidableEq, Repr

/-- What help can be asked for. -/
inductive HelpTopic where
  /-- The tool as a whole. -/
  | tool
  /-- One of the commands. -/
  | command (name : CommandName)
  /-- How to ask for help. -/
  | help
  deriving DecidableEq, Repr

/-- Why no command is carried out. -/
inductive Stop where
  /-- The arguments are wrong. -/
  | usage
  /-- The version was asked for. -/
  | version
  /-- Help was asked for. -/
  | help (topic : HelpTopic)
  deriving DecidableEq, Repr

/-- Options without a value. -/
inductive Switch where
  | verbose
  | noColor
  | version
  | help
  deriving DecidableEq, Repr

/-- Options with a value. -/
inductive Setting where
  | config
  | header
  | define
  deriving DecidableEq, Repr

/-- An option of either kind. -/
inductive Opt where
  | switch (switch : Switch)
  | setting (setting : Setting)
  deriving DecidableEq, Repr

/-- The command of a name. -/
def CommandName.ofText? (text : Text) : Option CommandName :=
  if text = "parse".toList then some parse
  else if text = "structs".toList then some structs
  else if text = "enums".toList then some enums
  else if text = "defines".toList then some defines
  else if text = "split-type".toList then some splitType
  else if text = "completions".toList then some completions
  else none

/-- The topic that the words behind `help` name. -/
def HelpTopic.ofWords? : List Text → Option HelpTopic
  | [] => some tool
  | [word] => if word = "help".toList then some help else (CommandName.ofText? word).map command
  | _ => none

/-- The shell of a name. -/
def shell? (text : Text) : Option Shell :=
  if text = "bash".toList then some .bash
  else if text = "elvish".toList then some .elvish
  else if text = "fish".toList then some .fish
  else if text = "powershell".toList then some .powershell
  else if text = "zsh".toList then some .zsh
  else none

/-- The long options in front of the name of a command, or behind it. -/
def longOption? (behind : Option CommandName) (name : Text) : Option Opt :=
  if name = "verbose".toList then some (.switch .verbose)
  else if name = "no-color".toList then some (.switch .noColor)
  else if name = "help".toList then some (.switch .help)
  else if name = "config".toList then some (.setting .config)
  else if name = "version".toList ∧ behind = none then some (.switch .version)
  else if name = "header".toList ∧ behind = some .splitType then some (.setting .header)
  else if name = "define".toList ∧ behind = some .splitType then some (.setting .define)
  else none

/-- The short options in front of the name of a command, or behind it. -/
def shortOption? (behind : Option CommandName) (letter : Char) : Option Opt :=
  if letter = 'v' then some (.switch .verbose)
  else if letter = 'h' then some (.switch .help)
  else if letter = 'V' ∧ behind = none then some (.switch .version)
  else if letter = 'D' ∧ behind = some .splitType then some (.setting .define)
  else none

/-- What has been given on one side of the name of a command. -/
structure Given where
  verbose : Bool := false
  noColor : Bool := false
  config : Option Path := none
  headers : List Path := []
  flags : List Text := []
  operands : List Text := []
  deriving DecidableEq, Repr

namespace Given

/-- Notes an option without a value, in front of the name of a command or behind it. -/
def turnOn (behind : Option CommandName) (given : Given) : Switch → Except Stop Given
  | .version => .error .version
  | .help => .error (.help (behind.elim .tool .command))
  | .verbose => if given.verbose then .error .usage else .ok { given with verbose := true }
  | .noColor => if given.noColor then .error .usage else .ok { given with noColor := true }

/-- Notes an option with its value.  A path may not be empty. -/
def set (given : Given) (setting : Setting) (value : Text) : Except Stop Given :=
  match setting with
  | .config =>
      if given.config.isSome || value.isEmpty then .error .usage
      else .ok { given with config := some (.ofText value) }
  | .header =>
      if value.isEmpty then .error .usage
      else .ok { given with headers := given.headers ++ [.ofText value] }
  | .define => .ok { given with flags := given.flags ++ [value] }

/-- Notes operands. -/
def addOperands (given : Given) (operands : List Text) : Given :=
  { given with operands := given.operands ++ operands }

end Given

/-- Whether an argument looks like an option, so that it is no value of the option before it. -/
def looksLikeOption (argument : Text) : Bool :=
  argument.head? == some '-' && argument != ['-']

/-- Reads the letters of an argument with short options.  The second part of the result is the
option whose value has to come from the next argument. -/
def readLetters (behind : Option CommandName) :
    Given → Text → Except Stop (Given × Option Setting)
  | given, [] => .ok (given, none)
  | given, letter :: letters =>
      match shortOption? behind letter with
      | none => .error .usage
      | some (.switch switch) => do
          let given ← given.turnOn behind switch
          readLetters behind given letters
      | some (.setting setting) =>
          match letters with
          | [] => .ok (given, some setting)
          | '=' :: value => (given.set setting value).map (·, none)
          | value => (given.set setting value).map (·, none)

/-- Reads arguments.  In front of the name of a command, the first operand ends the reading; the
second part of the result is what has not been read. -/
def readOptions (behind : Option CommandName) :
    Given → List Text → Except Stop (Given × List Text)
  | given, [] => .ok (given, [])
  | given, argument :: arguments =>
      match argument with
      | ['-', '-'] =>
          if behind.isNone then .error .usage else .ok (given.addOperands arguments, [])
      | '-' :: '-' :: long =>
          match longOption? behind (long.takeWhile (· ≠ '=')), long.dropWhile (· ≠ '=') with
          | none, _ => .error .usage
          | some (.switch switch), [] => do
              let given ← given.turnOn behind switch
              readOptions behind given arguments
          | some (.switch _), _ => .error .usage
          | some (.setting setting), _ :: value => do
              let given ← given.set setting value
              readOptions behind given arguments
          | some (.setting setting), [] =>
              match arguments with
              | [] => .error .usage
              | value :: later =>
                  if looksLikeOption value then .error .usage
                  else do
                    let given ← given.set setting value
                    readOptions behind given later
      | '-' :: letter :: letters =>
          match readLetters behind given (letter :: letters) with
          | .error stop => .error stop
          | .ok (given, none) => readOptions behind given arguments
          | .ok (given, some setting) =>
              match arguments with
              | [] => .error .usage
              | value :: later =>
                  if looksLikeOption value then .error .usage
                  else do
                    let given ← given.set setting value
                    readOptions behind given later
      | operand =>
          if behind.isNone then .ok (given, operand :: arguments)
          else readOptions behind (given.addOperands [operand]) arguments

/-- The path that is the only operand. -/
def onlyPath? : List Text → Option Path
  | [path] => if path.isEmpty then none else some (.ofText path)
  | _ => none

/-- The command of a name with what has been given behind it. -/
def command? (name : CommandName) (given : Given) : Option Command :=
  match name with
  | .parse => if given.operands.isEmpty then none else some (.parse given.operands)
  | .structs => (onlyPath? given.operands).map .structs
  | .enums => (onlyPath? given.operands).map .enums
  | .defines => (onlyPath? given.operands).map .defines
  | .splitType =>
      match given.operands with
      | [declaration] => some (.splitType declaration given.headers given.flags)
      | _ => none
  | .completions =>
      match given.operands with
      | [word] => (shell? word).map .completions
      | _ => none

/-- The settings file that is asked for on either side of the name of the command, or else by the
environment.  An empty path in the environment is wrong wherever it is consulted. -/
def configPath (front back : Given) (fallback : Option Path) : Except Stop (Option Path) :=
  if fallback = some [] ∧ (front.config.isNone ∨ back.config.isNone) then .error .usage
  else .ok (back.config <|> front.config <|> fallback)

/-- Reads the arguments of the tool; `fallback` is the settings file that the environment names. -/
def read (fallback : Option Path) (arguments : List Text) : Except Stop Invocation := do
  let (front, arguments) ← readOptions none {} arguments
  match arguments with
  | [] => .error .usage
  | word :: arguments =>
      if word = "help".toList then
        .error ((HelpTopic.ofWords? arguments).elim .usage .help)
      else
        match CommandName.ofText? word with
        | none => .error .usage
        | some name => do
            let (back, _) ← readOptions (some name) {} arguments
            let config ← configPath front back fallback
            match command? name back with
            | none => .error .usage
            | some command =>
                return {
                  verbose := front.verbose || back.verbose
                  color := !(front.noColor || back.noColor)
                  config
                  command }

end Arguments
end CHeader

import SolAudit.Text.Padding

/-!
# Commands

A command has options, and either commands below it or at most one operand. `Command.read` takes the arguments from the
left. The first that does not fit ends the reading, and so does one that asks for help or for the version.
-/

namespace SolAudit.Cli

/-- What giving an option means. -/
inductive Effect where
  | flag
  /-- A value follows that is shown as `label` and must be accepted. -/
  | value (label : String) (accepts : String → Bool) (repeatable : Bool)
  | help
  | version

structure OptionSpec where
  name : String
  letter : Option Char := none
  effect : Effect
  about : String := ""
  /-- Options that must not be given next to this one. -/
  excludes : List String := []

namespace OptionSpec

def takesValue (option : OptionSpec) : Bool :=
  match option.effect with
  | .value .. => true
  | _ => false

end OptionSpec

structure Operand where
  label : String
  about : String

structure Command where
  name : String
  otherName : Option String := none
  about : String
  options : List OptionSpec
  operand : Option Operand := none
  commands : List Command := []

/-- What was given to one command. -/
structure Given where
  flags : List String := []
  /-- Options with their values, in the order of the arguments. -/
  values : List (String × String) := []
  operand : Option String := none
  deriving DecidableEq, Repr

namespace Given

def has (given : Given) (option : String) : Bool :=
  given.flags.contains option || given.values.any fun (name, _) ↦ name == option

def value? (given : Given) (option : String) : Option String := given.values.lookup option

def allValues (given : Given) (option : String) : List String :=
  given.values.filterMap fun (name, value) ↦ if name == option then some value else none

end Given

/-- Why reading ends early. -/
inductive Stop where
  | usage
  | help (command : Command)
  | version

/-- The commands that were named, the outermost first, with what each was given. -/
abbrev Reading := List (String × Given)

/-- What an argument looks like. -/
inductive Word where
  /-- Everything after it is an operand. -/
  | separator
  | long (name : String) (attached : Option String)
  | letters (letters : List Char)
  | plain (text : String)
  deriving DecidableEq, Repr

/-- A long option, with the value after its equals sign. -/
def Word.ofLong (chars : List Char) : Word :=
  let name := chars.takeWhile (· != '=')
  match chars.drop name.length with
  | [] => .long (String.ofList name) none
  | _ :: value => .long (String.ofList name) (some (String.ofList value))

def Word.ofArgument (argument : String) : Word :=
  match argument.toList with
  | ['-', '-'] => .separator
  | '-' :: '-' :: rest => .ofLong rest
  | '-' :: c :: rest => .letters (c :: rest)
  | _ => .plain argument

namespace Command

def option? (command : Command) (name : String) : Option OptionSpec :=
  command.options.find? fun option ↦ option.name == name

def optionOfLetter? (command : Command) (letter : Char) : Option OptionSpec :=
  command.options.find? fun option ↦ option.letter == some letter

def command? (command : Command) (name : String) : Option Command :=
  command.commands.find? fun inner ↦ inner.name == name || inner.otherName == some name

/-- Takes an option that stands alone. -/
def takeFlag (command : Command) (given : Given) (option : OptionSpec) : Except Stop Given :=
  match option.effect with
  | .flag =>
    if given.flags.contains option.name then .error .usage
    else .ok { given with flags := given.flags ++ [option.name] }
  | .help => .error (.help command)
  | .version => .error .version
  | .value .. => .error .usage

/-- Takes an option with its value. -/
def takeValue (given : Given) (option : OptionSpec) (value : String) : Except Stop Given :=
  match option.effect with
  | .value _ accepts repeatable =>
    if accepts value && (repeatable || !given.has option.name) then
      .ok { given with values := given.values ++ [(option.name, value)] }
    else .error .usage
  | _ => .error .usage

/-- Takes letters that share a dash. The first that takes a value has the rest of them as its value; if nothing is left,
it is given back to wait for the next argument. -/
def takeLetters (command : Command) (given : Given) : List Char → Except Stop (Given × Option OptionSpec)
  | [] => .ok (given, none)
  | letter :: rest =>
    match command.optionOfLetter? letter with
    | none => .error .usage
    | some option =>
      if option.takesValue then
        match rest with
        | [] => .ok (given, some option)
        | '=' :: value => return (← takeValue given option (String.ofList value), none)
        | value => return (← takeValue given option (String.ofList value), none)
      else do command.takeLetters (← command.takeFlag given option) rest

/-- Takes an operand, which must not be empty. -/
def takeOperand (command : Command) (given : Given) (text : String) : Except Stop Given :=
  if command.operand.isSome && given.operand.isNone && text != "" then .ok { given with operand := some text }
  else .error .usage

/-- Two options were given that exclude each other. -/
def clashes (command : Command) (given : Given) : Bool :=
  command.options.any fun option ↦ given.has option.name && option.excludes.any given.has

/-- The reading of a command after its last argument. -/
def finish (command : Command) (given : Given) : Except Stop Reading :=
  if command.clashes given || command.operand.isSome != given.operand.isSome || !command.commands.isEmpty then
    .error .usage
  else .ok [(command.name, given)]

/-- Help on the command that the words lead to. -/
def helpOn (command : Command) : List String → Stop
  | [] => .help command
  | word :: rest =>
    match command.command? word with
    | some inner => inner.helpOn rest
    | none => if word == "help" && rest.isEmpty && !command.commands.isEmpty then .help command else .usage

/-- Reads arguments; `waiting` is an option whose value has to come next. -/
def readFrom (command : Command) (given : Given) (waiting : Option OptionSpec) : List String → Except Stop Reading
  | [] => if waiting.isSome then .error .usage else command.finish given
  | argument :: rest =>
    match waiting, Word.ofArgument argument with
    | some option, .plain text => do command.readFrom (← takeValue given option text) none rest
    | some _, _ => .error .usage
    | none, .separator => do command.finish (← rest.foldlM command.takeOperand given)
    | none, .long name attached =>
      match command.option? name, attached with
      | none, _ => .error .usage
      | some option, some value => do command.readFrom (← takeValue given option value) none rest
      | some option, none => do
        if option.takesValue then command.readFrom given (some option) rest
        else command.readFrom (← command.takeFlag given option) none rest
    | none, .letters letters => do
      let (given, waiting) ← command.takeLetters given letters
      command.readFrom given waiting rest
    | none, .plain text =>
      if command.commands.isEmpty then do command.readFrom (← command.takeOperand given text) none rest
      else
        match command.command? text with
        | some inner => do
          let reading ← inner.readFrom {} none rest
          if command.clashes given then .error .usage else .ok ((command.name, given) :: reading)
        | none => .error (if text == "help" then command.helpOn rest else .usage)

/-- Reads the arguments of a command. -/
def read (command : Command) (arguments : List String) : Except Stop Reading :=
  command.readFrom {} none arguments

/-- Two columns, the first as wide as its widest text. -/
def columns (rows : List (String × String)) : List String :=
  let width := rows.foldl (fun (width : Nat) row ↦ max width row.1.length) 0
  rows.map fun (left, right) ↦ "  " ++ Text.padRight (width + 2) left ++ right

def optionLabel (option : OptionSpec) : String :=
  let letter := match option.letter with
    | some letter => s!"-{letter}, "
    | none => "    "
  match option.effect with
  | .value label .. => letter ++ s!"--{option.name} <{label}>"
  | _ => letter ++ s!"--{option.name}"

/-- A heading over rows, unless there are none. -/
def part (heading : String) (rows : List (String × String)) : List String :=
  if rows.isEmpty then [] else "" :: heading :: columns rows

/-- The text that is shown as help on a command. -/
def page (command : Command) : String :=
  let operand := command.operand.map fun operand ↦ (s!"<{operand.label}>", operand.about)
  let words := [command.name, "[OPTIONS]"] ++ (operand.map Prod.fst).toList ++
    (if command.commands.isEmpty then [] else ["<COMMAND>"])
  let lines := [command.about, "", "Usage: " ++ " ".intercalate words] ++
    part "Commands:" (command.commands.map fun inner ↦ (inner.name, inner.about)) ++
    part "Arguments:" operand.toList ++
    part "Options:" (command.options.map fun option ↦ (optionLabel option, option.about))
  String.join (lines.map (· ++ "\n"))

end Command

end SolAudit.Cli

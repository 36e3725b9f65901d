import BuildScript.Cli.Options

/-! # Commands

The commands of the program: compiling a payload file, listing the languages, listing the stages.
A request for the version or for help goes before anything else on its part of the line.
-/

namespace BuildScript.Cli

structure CompileArgs where
  payload : String
  output : Option String := none
  templates : Option String := none
  verbose : Bool := false
deriving DecidableEq

inductive Command
  | help
  | version
  | compile (args : CompileArgs)
  /-- A compilation with a path that no file can have. -/
  | impossible
  | languages
  | stages
deriving DecidableEq

inductive MainOption
  | version
  | help
deriving DecidableEq

def mainSpecs : List (Spec MainOption) := [
  ⟨["--version"], false, .version⟩,
  ⟨["--help"], false, .help⟩]

inductive CompileOption
  | output
  | templates
  | verbose
  | help
deriving DecidableEq

def compileSpecs : List (Spec CompileOption) := [
  ⟨["--output", "-o"], true, .output⟩,
  ⟨["--templates"], true, .templates⟩,
  ⟨["--verbose", "-v"], false, .verbose⟩,
  ⟨["--help"], false, .help⟩]

/-- The value that was given last for an option. -/
def lastValue (line : Line CompileOption) (o : CompileOption) : Option String :=
  ((line.given.filter fun g => g.option == o).getLast?).map Given.value

def hasOption (line : Line CompileOption) (o : CompileOption) : Bool :=
  line.given.any fun g => g.option == o

/-- Whether a text can be a path: none holds a NUL. -/
def isPath (s : String) : Bool := !s.toList.contains '\x00'

def readCompile (args : List String) : Except Misuse Command := do
  let line ← read compileSpecs true args
  let paths := (lastValue line .output).toList ++ (lastValue line .templates).toList ++
    line.operands.take 1
  if hasOption line .help then pure .help
  else if !paths.all isPath then pure .impossible
  else
    match line.operands with
    | [] => throw (.missingOperand "PAYLOAD")
    | [payload] => pure (.compile {
        payload := payload
        output := lastValue line .output
        templates := lastValue line .templates
        verbose := hasOption line .verbose })
    | _ :: extra :: _ => throw (.unexpectedOperand extra)

/-- A command that takes nothing. -/
def readBare (command : Command) (args : List String) : Except Misuse Command := do
  let line ← read [⟨["--help"], false, MainOption.help⟩] true args
  match line.given, line.operands with
  | _ :: _, _ => pure .help
  | [], [] => pure command
  | [], extra :: _ => throw (.unexpectedOperand extra)

/-- What an option of the program itself asks for. -/
def Command.ofOption : MainOption → Command
  | .version => .version
  | .help => .help

/-- The command that a command line asks for. Where a command should stand, an option of the program
counts too. -/
def Command.ofArgs (args : List String) : Except Misuse Command := do
  let line ← read mainSpecs false args
  match line.given, line.operands with
  | given :: _, _ => pure (.ofOption given.option)
  | [], [] => throw .missingCommand
  | [], "compile" :: rest => readCompile rest
  | [], "languages" :: rest => readBare .languages rest
  | [], "stages" :: rest => readBare .stages rest
  | [], name :: rest =>
    match (← read mainSpecs false (name :: rest)).given with
    | given :: _ => pure (.ofOption given.option)
    | [] => throw (.unknownCommand name)

end BuildScript.Cli

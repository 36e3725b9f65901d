import BuildScript.Cli.Command
import BuildScript.Cli.Files
import BuildScript.Cli.Markup
import BuildScript.Cli.Table
import BuildScript.Cli.Terminal
import BuildScript.Compiler

/-! # The program

What the command line program does with its arguments, over any file system: what it prints, what
it writes, and how it ends.
-/

namespace BuildScript.Cli

/-- Faults that the program does not report as errors of its input. -/
inductive Crash
  | fault (f : Fault)
  | payloadIsDirectory
  | payloadNameTooLong
  | impossiblePath
  | write (f : WriteFault)
  /-- The text or the tree that is to be handed out holds half of a surrogate pair. -/
  | unencodable
  /-- The notice of a file that was written is not well-formed. -/
  | markup
deriving DecidableEq

inductive Outcome
  | done (stdout : String)
  | help
  | misused (m : Misuse)
  | reported (message : String) (code : Nat)
  | crashed (c : Crash)

namespace Outcome

def exitCode : Outcome → Nat
  | .done _ | .help => 0
  | .misused _ => 2
  | .reported _ code => code
  | .crashed _ => 1

def stdout : Outcome → String
  | .done text => text
  | _ => ""

/-- The line with which a fault of the input is reported. -/
def errorLine? : Outcome → Option String
  | .reported message _ => some (Text.escapeSurrogates (plain ("Error: " ++ message)))
  | _ => none

end Outcome

/-- How the program ended and what it noted. -/
structure Result where
  outcome : Outcome
  journal : Journal := []

def versionText : String := "cibuild " ++ Compiler.version ++ "\n"

def stageLine (index : Nat) (s : Stage) : String :=
  let number := decimal index
  Table.blanks (2 - number.length) ++ number ++ ". " ++ s.name ++ " (" ++ s.kind.name ++ ")\n"

def stagesText : String :=
  String.join (List.zipWith stageLine (List.range' 1 Stage.all.length) Stage.all)

def languagesText : String :=
  let rows := Registry.standard.languages.map fun language =>
    [language, ((Registry.standard.bindings.lookup language).map Profile.title).getD ""]
  Table.render { title := "Languages", head := ["Language", "Profile"], rows := rows }

/-- The end of a compilation that failed. A malformed file is named in the report. -/
def failed (path : String) (f : Fault) : Outcome :=
  match f, f.report? with
  | .draft .unencodable, _ => .crashed .unencodable
  | .unreadable _, some (message, code) => .reported (message ++ " in " ++ path) code
  | _, some (message, code) => .reported message code
  | f, none => .crashed (.fault f)

variable {m : Type → Type} [Monad m]

/-- The templates of a directory that are needed around a script. -/
def loadTemplates (fs : FileSystem m) (directory : Option String) : m Template.Renderer :=
  match directory with
  | none => pure Template.packaged
  | some directory => do
    let load (name : String) : m (String × Option String) := do
      match ← fs.read (Path.join directory name) with
      | .file text => pure (name, some text)
      | .directory | .absent | .longName => pure (name, none)
    let header ← load "header.sh.j2"
    let footer ← load "footer.sh.j2"
    pure (Template.ofFiles fun name => ([header, footer].lookup name).join)

def resolve (path : String) : Entry → Except Crash (Except Fault (Resolution × Journal))
  | .directory => .error .payloadIsDirectory
  | .longName => .error .payloadNameTooLong
  | .absent => .ok (.ok (Resolution.ofMissing path))
  | .file text => .ok ((Resolution.ofText text).mapError fun
      | .unreadable f => .unreadable f
      | .invalid e => .invalid e)

/-- What is said of a script that was written. -/
def notice (path : String) : String :=
  "[green]✓[/green] Wrote build script to " ++ Path.normal path

/-- Hands out the text of a script: to the output file if one is named. A file is there, and empty,
before its text turns out to be none. -/
def deliver (fs : FileSystem m) (output : Option String) (text : String) : m Outcome :=
  let isText := !Text.hasSurrogate text
  match output with
  | none => pure (if isText then .done (plain text) else .crashed .unencodable)
  | some path => do
    match ← fs.write path (if isText then text else "") with
    | some f => pure (.crashed (.write f))
    | none =>
      if !isText then pure (.crashed .unencodable)
      else if !Markup.isWellFormed (notice path) then pure (.crashed .markup)
      else pure (.done "")

def compile (fs : FileSystem m) (args : CompileArgs) (logTree : Bool) : m Result := do
  let path := Path.normal args.payload
  match resolve path (← fs.read path) with
  | .error crash => pure { outcome := .crashed crash }
  | .ok (.error f) => pure { outcome := failed path f }
  | .ok (.ok (r, journal)) =>
    let templates ← loadTemplates fs args.templates
    match Compiler.compile r { logTree := logTree } none templates with
    | (.error f, more) => pure { outcome := failed path f, journal := journal ++ more }
    | (.ok text, more) =>
      let outcome ← deliver fs args.output (text ++ "\n")
      pure { outcome := outcome, journal := journal ++ more }

/-- Runs the program. With `debug` the tree of a script is noted. -/
def run (fs : FileSystem m) (args : List String) (debug : Bool) : m Result :=
  match Command.ofArgs args with
  | .error e => pure { outcome := .misused e }
  | .ok .help => pure { outcome := .help }
  | .ok .version => pure { outcome := .done versionText }
  | .ok .languages => pure { outcome := .done languagesText }
  | .ok .stages => pure { outcome := .done stagesText }
  | .ok .impossible => pure { outcome := .crashed .impossiblePath }
  | .ok (.compile args) => compile fs args debug

end BuildScript.Cli

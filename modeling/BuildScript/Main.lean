import BuildScript.Cli.Program

/-! # Command line

Runs the program on the real file system.
-/

namespace BuildScript.Cli

def isDirectory (path : String) : IO Bool := do
  try
    (← IO.FS.realPath path).isDir
  catch _ => pure false

def readPath (path : String) : IO Entry := do
  if ← isDirectory path then
    pure .directory
  else
    try
      let text ← IO.FS.readFile path
      pure (.file text)
    catch _ => pure .absent

def writePath (path text : String) : IO (Option WriteFault) := do
  IO.FS.createDirAll (Path.ofNames (Path.names path).dropLast)
  IO.FS.writeFile path text
  pure none

def realFiles : FileSystem IO := ⟨readPath, writePath⟩

def usage : String :=
  "Usage: cibuild [--version] [--help] COMMAND\n\n" ++
    "Commands:\n" ++
    "  compile PAYLOAD [-o FILE] [--templates DIR] [-v]  Compile a payload file.\n" ++
    "  languages                                         List the language profiles.\n" ++
    "  stages                                            Show the stage order.\n"

/-- The least level of the notices that are shown. -/
def shownLevel (debug verbose : Bool) : Level :=
  if debug then .debug else if verbose then .info else .warning

def isVerbose (args : List String) : Bool :=
  match Command.ofArgs args with
  | .ok (.compile args) => args.verbose
  | _ => false

end BuildScript.Cli

open BuildScript.Cli in
def main (args : List String) : IO UInt32 := do
  let debug := ((← IO.getEnv "CIBUILD_DEBUG").getD "") != ""
  let result ← run realFiles args debug
  for n in result.journal.above (shownLevel debug (isVerbose args)) do
    IO.eprintln n.line
  IO.print result.outcome.stdout
  match result.outcome with
  | .help => IO.print usage
  | .misused m => IO.eprintln m.message
  | .crashed _ => IO.eprintln "The build could not be compiled."
  | .reported _ _ | .done _ => pure ()
  if let some line := result.outcome.errorLine? then
    IO.eprintln line
  return UInt32.ofNat result.outcome.exitCode

import BuildScript.Pipeline
import BuildScript.Registry
import BuildScript.Resolution
import BuildScript.Shell.Outline
import BuildScript.Template.Packaged

/-! # Compiler

From a resolved payload to the text of a script: the profile is chosen, its defaults go under the
spec, the stages write the body, the exit hook is written apart, and both are set between header
and footer.
-/

namespace BuildScript

/-- Why a payload has no script. -/
inductive Fault
  | draft (f : Draft.Fault)
  | unknownLanguage (e : Registry.Unknown)
  | invalid (e : Payload.Invalid)
  | invalidOptions (details : List Validation.Detail)
  | unreadable (f : Yaml.Fault)
  | template (f : Template.Fault)
deriving DecidableEq

/-- The scripts of a build before they are rendered. -/
structure Compiled where
  profile : Profile
  build : Build
  status : Status
  body : Shell.Script
  finish : Option Shell.Script

namespace Compiler

open Drafting

def version : String := "0.1.0"

/-- How often a command is tried that may be retried. -/
def retryAttempts : Nat := 3

/-- Runs the stages of a profile; if they are completed, the exit hook is written apart. -/
def compose (p : Profile) (b : Build) (hooks : Hooks) (status : Status) :
    Drafting (Shell.Script × Option Shell.Script) := do
  let completed ← Pipeline.run b hooks status
  let body ← finish
  if completed then
    let exit ← aside do
      p.onExit b
      finish
    pure (body, some exit)
  else
    pure (body, none)

/-- Builds with a profile that is already chosen. -/
def buildWith (p : Profile) (r : Resolution) (cacheOptions : Entries) :
    Except Draft.Fault Compiled × Journal :=
  let b : Build := ⟨p.mergedConfig r.payload.config, r.payload, cacheOptions⟩
  let hooks := p.hook b (p.support b)
  let (result, d) := compose p b hooks r.status { journal := [.compiling p.name r.status] }
  (result.map fun s => ⟨p, b, r.status, s.1, s.2⟩, d.journal)

/-- Chooses the profile for the language of the spec and builds with it. The options of the
directory cache are those of the payload unless others are given. -/
def build (r : Resolution) (cacheOptions : Option Entries) : Except Fault Compiled × Journal :=
  match Registry.standard.get (Entries.get r.payload.config "language") with
  | .error e => (.error (.unknownLanguage e), [])
  | .ok p =>
    let (result, journal) := buildWith p r (cacheOptions.getD r.payload.cacheOptions)
    (result.mapError .draft, journal)

/-- The text of the exit hook, one level deep. -/
def finishText (c : Compiled) : String := (c.finish.map fun s => s.render 1).getD ""

/-- Values for the header. -/
def headerContext (c : Compiled) : Template.Context := [
  ("finish", .text (finishText c)),
  ("retry_attempts", .int retryAttempts),
  ("version", .text version)]

/-- Sets the scripts of a build between header and footer. -/
def assemble (c : Compiled) (templates : Template.Renderer) : Except Template.Fault String := do
  let header ← templates "header.sh" (headerContext c)
  let footer ← templates "footer.sh" []
  pure (Text.joinLines [header, c.body.render 0, footer])

/-- The notices of the tree of a build, if such are asked for. -/
def treeNotices (options : Options) (c : Compiled) : Except Draft.Fault Journal :=
  if options.logTree then
    match (Shell.Outline.ofScript c.body).encoded? with
    | some dump => .ok [.tree dump]
    | none => .error .unencodable
  else .ok []

/-- Compiles a resolved payload to text. A tree that is to be noted is dumped before the templates
are looked at. -/
def compile (r : Resolution) (options : Options) (cacheOptions : Option Entries)
    (templates : Template.Renderer) : Except Fault String × Journal :=
  let (result, journal) := build r cacheOptions
  match result with
  | .error e => (.error e, journal)
  | .ok c =>
    match treeNotices options c with
    | .error f => (.error (.draft f), journal)
    | .ok notices => ((assemble c templates).mapError .template, journal ++ notices)

/-- What a compilation starts from: a payload and options, checked in this order. -/
def prepare (payload : Setting) (options : Entries) : Except Fault (Payload × Options) := do
  let p ← (Payload.ofSetting payload).mapError .invalid
  let o ← (Options.ofEntries options).mapError .invalidOptions
  pure (p, o)

/-- Compiles a payload that is at hand. -/
def compilePayload (p : Payload) (options : Options) (cacheOptions : Option Entries)
    (templates : Template.Renderer) : Except Fault String × Journal :=
  let (r, journal) := Resolution.ofPayload p
  let (result, more) := compile r options cacheOptions templates
  (result, journal ++ more)

/-- Builds a payload that is at hand. -/
def buildPayload (p : Payload) (cacheOptions : Option Entries) :
    Except Fault Compiled × Journal :=
  let (r, journal) := Resolution.ofPayload p
  let (result, more) := build r cacheOptions
  (result, journal ++ more)

end Compiler

namespace Fault

/-- The message for a fault that is reported, and the status with which the program ends. -/
def report? : Fault → Option (String × Nat)
  | .draft (.structural f) => some (f.message, Shell.StructuralFault.exitCode)
  | .unknownLanguage e => some (e.message, 2)
  | .invalid .notMapping =>
    some ("Invalid payload: Payload must be a mapping at the top level", 2)
  | .invalid .keysNotNames => some ("Invalid payload: keywords must be strings", 2)
  | .invalid (.fields _) => some ("Invalid payload", 2)
  | .unreadable .malformed => some ("Invalid YAML", 2)
  | .draft _ | .unreadable _ | .invalidOptions _ | .template _ => none

end Fault

end BuildScript

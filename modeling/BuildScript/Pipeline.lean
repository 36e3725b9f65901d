import BuildScript.Profile.Hooks

/-! # Pipeline

The run of all stages. Builtin stages run their hook; a custom stage runs the commands of the
user, or its hook if there are none, between its addons.
-/

namespace BuildScript

/-- What a profile does at each stage. -/
abbrev Hooks := Stage → Drafting Unit

namespace Pipeline

open Capability Drafting

/-- The label of the fold around the `index`th of `count` commands under a name. -/
def foldLabel (name : String) (count index : Nat) : String :=
  if count = 1 then name else name ++ "." ++ decimal index

/-- Commands from the `index`th of `count` on, each in a fold of its own. -/
def foldedFrom (name : String) (asserted : Bool) (count : Nat) :
    Nat → List String → Drafting Unit
  | _, [] => pure ()
  | index, text :: rest => do
    command { text := text, echo := true, asserted := asserted, timing := true }
      (foldLabel name count index)
    foldedFrom name asserted count (index + 1) rest

def folded (name : String) (asserted : Bool) (texts : List String) : Drafting Unit :=
  foldedFrom name asserted texts.length 1 texts

/-- The commands of the user for a stage, in order. Those of the script are tests. -/
def userCommands (stage : Stage) (texts : List String) : Drafting Unit :=
  if stage = .script then texts.forM Profile.testCommand
  else folded stage.name stage.isAsserted texts

def runCustom (b : Build) (hooks : Hooks) (stage : Stage) : Drafting Unit := do
  runAddons b ("before_" ++ stage.name)
  let texts ← read (b.textsOf stage.name)
  if texts.isEmpty || stage = .afterResult then
    hooks stage
  else
    userCommands stage texts
  runAddons b ("after_" ++ stage.name)

def runStage (b : Build) (hooks : Hooks) (stage : Stage) : Drafting Unit := do
  note (.running stage)
  match stage.kind with
  | .builtin => hooks stage
  | .custom => runCustom b hooks stage

/-- Reports the fetch status of the spec; answers whether the build goes on. -/
def checkConfig : Status → Drafting Bool
  | .configured => pure true
  | .notFound => do
    note .specMissing
    message ("Could not find " ++ specFile ++ ", using standard configuration.") (some .red)
    pure true
  | .serverError => do
    note .specUnreachable
    message ("Could not fetch " ++ specFile ++ ".") (some .red)
    command { text := "cibuild_terminate 2" }
    pure false

/-- Runs all stages, or none if the spec could not be fetched; answers which. -/
def run (b : Build) (hooks : Hooks) (status : Status) : Drafting Bool := do
  if ← checkConfig status then
    Stage.all.forM (runStage b hooks)
    pure true
  else
    pure false

end Pipeline

end BuildScript

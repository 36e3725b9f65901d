import BuildScript.Setting.Text
import BuildScript.Stage
import BuildScript.Status

/-! # Journal

What a compilation notes about itself while it runs: each notice has a level and a message.
-/

namespace BuildScript

inductive Level
  | debug
  | info
  | warning
  | error
deriving DecidableEq

namespace Level

def name : Level → String
  | .debug => "DEBUG"
  | .info => "INFO"
  | .warning => "WARNING"
  | .error => "ERROR"

def rank : Level → Nat
  | .debug => 0
  | .info => 1
  | .warning => 2
  | .error => 3

end Level

inductive Notice
  | finished (nodes : Nat)
  | unknownResult (value : Setting)
  | fileMissing (path : String)
  | compiling (profile : String) (status : Status)
  | tree (dump : String)
  | unknownAddon (name : Scalar)
  | runningAddon (name hook : String)
  | noRepository
  | unsupportedStrategy (strategy : Setting)
  | specMissing
  | specUnreachable
  | running (stage : Stage)

namespace Notice

def level : Notice → Level
  | .finished _ | .tree _ | .runningAddon _ _ | .noRepository | .running _ => .debug
  | .compiling _ _ => .info
  | .unknownResult _ | .fileMissing _ | .unknownAddon _ | .unsupportedStrategy _
  | .specMissing => .warning
  | .specUnreachable => .error

def message : Notice → String
  | .finished nodes => "Finished script with " ++ decimal nodes ++ " top-level node(s)"
  | .unknownResult value => "Ignoring unknown config result " ++ value.shown .loose
  | .fileMissing path => "Build config " ++ path ++ " not found, using defaults"
  | .compiling profile status =>
    "Compiling " ++ profile ++ " build (config " ++ status.name ++ ")"
  | .tree dump => "Script AST:\n" ++ dump
  | .unknownAddon name => "Skipping unknown addon " ++ name.shown
  | .runningAddon name hook => "Running addon " ++ name ++ " for " ++ hook
  | .noRepository => "No repository in payload, skipping checkout"
  | .unsupportedStrategy strategy =>
    "Unsupported git strategy " ++ strategy.shown .sealed ++ ", falling back to clone"
  | .specMissing => specFile ++ " not found, using standard configuration"
  | .specUnreachable => "Could not fetch " ++ specFile ++ ", terminating build"
  | .running stage => "Running " ++ stage.kind.name ++ " stage " ++ stage.name

def line (n : Notice) : String := n.level.name ++ ": " ++ n.message

end Notice

/-- Notices in the order in which they were made. -/
abbrev Journal := List Notice

/-- The notices at a level or above it. -/
def Journal.above (journal : Journal) (level : Level) : Journal :=
  journal.filter fun n => decide (level.rank ≤ n.level.rank)

end BuildScript

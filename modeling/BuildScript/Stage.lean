/-! # Stages

The fixed phases of a build. Builtin stages always run the profile's own hook; custom stages run
the commands of the build spec when it has any.
-/

namespace BuildScript

inductive Stage
  | configure
  | checkout
  | preSetup
  | paranoidMode
  | environment
  | setup
  | announce
  | beforeInstall
  | install
  | beforeScript
  | script
  | afterResult
  | afterScript
deriving DecidableEq

namespace Stage

inductive Kind
  | builtin
  | custom
deriving DecidableEq

def Kind.name : Kind → String
  | .builtin => "builtin"
  | .custom => "custom"

/-- The name under which a build spec and a profile know the stage. -/
def name : Stage → String
  | .configure => "configure"
  | .checkout => "checkout"
  | .preSetup => "pre_setup"
  | .paranoidMode => "paranoid_mode"
  | .environment => "export"
  | .setup => "setup"
  | .announce => "announce"
  | .beforeInstall => "before_install"
  | .install => "install"
  | .beforeScript => "before_script"
  | .script => "script"
  | .afterResult => "after_result"
  | .afterScript => "after_script"

def kind : Stage → Kind
  | .configure | .checkout | .preSetup | .paranoidMode | .environment | .setup | .announce =>
    .builtin
  | .beforeInstall | .install | .beforeScript | .script | .afterResult | .afterScript => .custom

/-- All stages in the order in which a build runs them. -/
def all : List Stage :=
  [.configure, .checkout, .preSetup, .paranoidMode, .environment, .setup, .announce,
    .beforeInstall, .install, .beforeScript, .script, .afterResult, .afterScript]

/-- The failure of a command that the user gives for the stage stops the build. -/
def isAsserted : Stage → Bool
  | .beforeInstall | .install | .beforeScript => true
  | _ => false

def ofName? (s : String) : Option Stage := all.find? fun stage => stage.name == s

theorem mem_all (s : Stage) : s ∈ all := by cases s <;> decide

end Stage

end BuildScript

/-! # Script trees

What a script is to do, before any shell text is chosen: commands with their wrapping, variable
assignments, literal lines, conditionals and folded sections.
-/

namespace BuildScript.Shell

/-- Colours in which a message can be shown. -/
inductive Color
  | red
  | green
  | yellow
deriving DecidableEq

namespace Color

def all : List Color := [.red, .green, .yellow]

def name : Color → String
  | .red => "red"
  | .green => "green"
  | .yellow => "yellow"

def ofName? (s : String) : Option Color := all.find? fun c => c.name == s

@[simp] theorem ofName?_name (c : Color) : ofName? c.name = some c := by cases c <;> rfl

end Color

/-- A shell command and what is done around it. -/
structure Command where
  text : String
  echo : Bool := false
  asserted : Bool := false
  timing : Bool := false
  retry : Bool := false
  secure : Bool := false
  color : Option Color := none
deriving DecidableEq

/-- An environment variable given to everything that follows. The value is shell text. -/
structure Export where
  key : String
  value : String
  echo : Bool := true
  secure : Bool := false
deriving DecidableEq

mutual

inductive Node
  | command (c : Command)
  | assign (e : Export)
  | raw (text : String)
  | conditional (branches : List Branch)
  | fold (label : String) (body : List Node)

/-- One arm of a conditional. The arm without a test is the one taken otherwise. -/
inductive Branch
  | mk (test : Option String) (body : List Node)

end

def Branch.test : Branch → Option String
  | ⟨test, _⟩ => test

def Branch.body : Branch → List Node
  | ⟨_, body⟩ => body

/-- A whole script. -/
abbrev Script := List Node

instance : Inhabited Node := ⟨.raw ""⟩

/-- What stands for a secret wherever it must not be seen. -/
def secret : String := "[secure]"

end BuildScript.Shell

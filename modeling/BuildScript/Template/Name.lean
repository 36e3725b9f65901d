import BuildScript.Template.Basic
import BuildScript.Text.PlainForm

/-! # Names in a template

Names of one plain form are one variable. It is loaded once for each of them, in the order in
which they come first, so what counts is the value of the last one.
-/

namespace BuildScript.Template

mutual

/-- The names that a part refers to, in the order of writing. -/
def Part.names : Part → List String
  | .text _ => []
  | .value name => [name]
  | .choice name yes no => name :: (namesIn yes ++ namesIn no)

def namesIn : List Part → List String
  | [] => []
  | part :: rest => part.names ++ namesIn rest

end

mutual

def Part.rename (f : String → String) : Part → Part
  | .text s => .text s
  | .value name => .value (f name)
  | .choice name yes no => .choice (f name) (renameAll f yes) (renameAll f no)

def renameAll (f : String → String) : List Part → List Part
  | [] => []
  | part :: rest => part.rename f :: renameAll f rest

end

/-- The names of variables in the order in which they are loaded. The template itself is there
before any of them. -/
def loaded (names : List String) : List String :=
  let found := (names.filter fun n => !constants.any fun c => c.1 == n).eraseDups
  found.filter (· == "self") ++ found.filter (· != "self")

/-- Has every variable under the name that is loaded last. -/
def unify (parts : List Part) : List Part :=
  let names := loaded (namesIn parts)
  let last (name : String) : String :=
    if names.contains name then
      (names.filter fun n => Text.plainForm n == Text.plainForm name).getLastD name
    else name
  renameAll last parts

end BuildScript.Template

import BuildScript.Shell.Document
import BuildScript.Shell.Rendering
import BuildScript.Text.Surrogate

/-! # Outlines

Trees in which any of the seven kinds of part may stand anywhere, as they are written by hand.
Outlines are listed, redacted and dumped as they are; only one whose parts all stand in their
place is a script that can be rendered.
-/

namespace BuildScript.Shell

inductive Outline
  | command (c : Command)
  | assign (e : Export)
  | raw (text : String)
  | conditional (branches : List Outline)
  | branch (test : Option String) (children : List Outline)
  | fold (label : String) (children : List Outline)
  | script (children : List Outline)

instance : Inhabited Outline := ⟨.script []⟩

namespace Outline

inductive Kind
  | command
  | assign
  | raw
  | conditional
  | branch
  | fold
  | script
deriving DecidableEq

def Kind.name : Kind → String
  | .command => "Command"
  | .assign => "Export"
  | .raw => "Raw"
  | .conditional => "ConditionalBlock"
  | .branch => "Branch"
  | .fold => "FoldBlock"
  | .script => "Script"

def kind : Outline → Kind
  | .command _ => .command
  | .assign _ => .assign
  | .raw _ => .raw
  | .conditional _ => .conditional
  | .branch _ _ => .branch
  | .fold _ _ => .fold
  | .script _ => .script

/-- Why an outline is no script. -/
inductive Misplaced
  /-- The root holds no nodes. -/
  | noNodes
  /-- An arm of a conditional has no place for a test. -/
  | noTest
  /-- A branch or a script stands where a node belongs. -/
  | notNode (kind : Kind)
deriving DecidableEq

def Misplaced.message? : Misplaced → Option String
  | .notNode kind => some ("Cannot render node of type " ++ kind.name)
  | .noNodes | .noTest => none

mutual

/-- The node that an outline stands for. -/
def node : Outline → Except Misplaced Node
  | .command c => .ok (.command c)
  | .assign e => .ok (.assign e)
  | .raw text => .ok (.raw text)
  | .fold label children => (nodes children).map (.fold label)
  | .conditional branches => (arms branches).map .conditional
  | .branch _ _ => .error (.notNode .branch)
  | .script _ => .error (.notNode .script)

/-- The nodes that outlines stand for; the first misplaced part is reported. -/
def nodes : List Outline → Except Misplaced (List Node)
  | [] => .ok []
  | o :: rest => do
    let n ← node o
    let ns ← nodes rest
    pure (n :: ns)

def arms : List Outline → Except Misplaced (List Branch)
  | [] => .ok []
  | .branch test children :: rest => do
    let body ← nodes children
    let more ← arms rest
    pure (⟨test, body⟩ :: more)
  | _ :: _ => .error .noTest

end

/-- The nodes below a root; the root itself may be a script, a fold or a branch. -/
def toScript : Outline → Except Misplaced Script
  | .script children | .fold _ children | .branch _ children => nodes children
  | .command _ | .assign _ | .raw _ | .conditional _ => .error .noNodes

def render (o : Outline) (level : Int) : Except Misplaced String :=
  o.toScript.map fun s => s.render level

mutual

/-- Every part below an outline, each before its own parts. -/
def descendants : Outline → List Outline
  | .command _ | .assign _ | .raw _ => []
  | .conditional branches => beneathArms branches
  | .branch _ children | .fold _ children | .script children => beneath children

def beneath : List Outline → List Outline
  | [] => []
  | o :: rest => o :: (o.descendants ++ beneath rest)

/-- Arms are passed over: only what they hold is listed. -/
def beneathArms : List Outline → List Outline
  | [] => []
  | o :: rest => o.descendants ++ beneathArms rest

end

end Outline

def Command.redacted (c : Command) : Command := if c.secure then { c with text := secret } else c

def Export.redacted (e : Export) : Export := if e.secure then { e with value := secret } else e

@[simp] theorem Command.redacted_redacted (c : Command) : c.redacted.redacted = c.redacted := by
  by_cases h : c.secure <;> simp [Command.redacted, h]

@[simp] theorem Export.redacted_redacted (e : Export) : e.redacted.redacted = e.redacted := by
  by_cases h : e.secure <;> simp [Export.redacted, h]

namespace Outline

mutual

/-- The outline with every secret hidden. -/
def redacted : Outline → Outline
  | .command c => .command c.redacted
  | .assign e => .assign e.redacted
  | .raw text => .raw text
  | .conditional branches => .conditional (redactedAll branches)
  | .branch test children => .branch test (redactedAll children)
  | .fold label children => .fold label (redactedAll children)
  | .script children => .script (redactedAll children)

def redactedAll : List Outline → List Outline
  | [] => []
  | o :: rest => o.redacted :: redactedAll rest

end

mutual

/-- Hiding secrets twice is hiding them once. -/
theorem redacted_redacted (o : Outline) : o.redacted.redacted = o.redacted := by
  cases o with
  | command c => simp [redacted]
  | assign e => simp [redacted]
  | raw text => rfl
  | conditional branches => simp [redacted, redactedAll_redactedAll branches]
  | branch test children => simp [redacted, redactedAll_redactedAll children]
  | fold label children => simp [redacted, redactedAll_redactedAll children]
  | script children => simp [redacted, redactedAll_redactedAll children]

theorem redactedAll_redactedAll (os : List Outline) :
    redactedAll (redactedAll os) = redactedAll os := by
  cases os with
  | nil => rfl
  | cons o rest => simp [redactedAll, redacted_redacted o, redactedAll_redactedAll rest]

end

def optionalText : Option String → Document
  | none => .null
  | some s => .text s

mutual

/-- The outline as a record: its kind, then its fields. -/
def document : Outline → Document
  | .command c => .record [
      ("type", .text "Command"), ("text", .text c.text), ("echo", .flag c.echo),
      ("assert", .flag c.asserted), ("timing", .flag c.timing), ("retry", .flag c.retry),
      ("secure", .flag c.secure), ("color", optionalText (c.color.map Color.name))]
  | .assign e => .record [
      ("type", .text "Export"), ("key", .text e.key), ("value", .text e.value),
      ("echo", .flag e.echo), ("secure", .flag e.secure)]
  | .raw text => .record [("type", .text "Raw"), ("text", .text text)]
  | .conditional branches => .record [
      ("type", .text "ConditionalBlock"), ("branches", .list (documents branches))]
  | .branch test children => .record [
      ("type", .text "Branch"), ("test", optionalText test),
      ("children", .list (documents children))]
  | .fold label children => .record [
      ("type", .text "FoldBlock"), ("label", .text label),
      ("children", .list (documents children))]
  | .script children => .record [
      ("type", .text "Script"), ("children", .list (documents children))]

def documents : List Outline → List Document
  | [] => []
  | o :: rest => o.document :: documents rest

end

/-- The dump of an outline, secrets hidden. -/
def dump (o : Outline) : String := o.redacted.document.render

/-- The dump as it is handed out, unless half of a surrogate pair is left in it. -/
def encoded? (o : Outline) : Option String :=
  if Text.hasSurrogate o.dump then none else some o.dump

mutual

def ofNode : Node → Outline
  | .command c => .command c
  | .assign e => .assign e
  | .raw text => .raw text
  | .fold label body => .fold label (ofNodes body)
  | .conditional branches => .conditional (ofBranches branches)

def ofNodes : List Node → List Outline
  | [] => []
  | n :: rest => ofNode n :: ofNodes rest

def ofBranches : List Branch → List Outline
  | [] => []
  | ⟨test, body⟩ :: rest => .branch test (ofNodes body) :: ofBranches rest

end

def ofScript (s : Script) : Outline := .script (ofNodes s)

end Outline

end BuildScript.Shell

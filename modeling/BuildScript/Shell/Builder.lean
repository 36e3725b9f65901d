import BuildScript.Shell.Node

/-! # Builders

A script under construction: the finished nodes at the root and the blocks that are still open,
innermost first. Every call writes to the innermost open block, and blocks close in the reverse
order of their opening.
-/

namespace BuildScript.Shell

inductive BlockKind
  | script
  | fold
  | conditional
deriving DecidableEq

def BlockKind.name : BlockKind → String
  | .script => "script"
  | .fold => "fold"
  | .conditional => "conditional"

/-- An open block. A conditional holds its closed arms and the arm that is being written. -/
inductive Frame
  | fold (label : String) (body : List Node)
  | conditional (closed : List Branch) (test : Option String) (body : List Node)

namespace Frame

def kind : Frame → BlockKind
  | .fold _ _ => .fold
  | .conditional _ _ _ => .conditional

def append (n : Node) : Frame → Frame
  | .fold label body => .fold label (body ++ [n])
  | .conditional closed test body => .conditional closed test (body ++ [n])

/-- The node that the block becomes when it is closed. -/
def node : Frame → Node
  | .fold label body => .fold label body
  | .conditional closed test body => .conditional (closed ++ [⟨test, body⟩])

end Frame

/-- The ways in which calls can be out of nesting order. -/
inductive StructuralFault
  | alreadyFinished
  | nothingOpen
  | unclosed (blocks : List BlockKind)
  | outsideConditional (arm : String)
  | afterElse
deriving DecidableEq

namespace StructuralFault

def detail : StructuralFault → String
  | .alreadyFinished => "script is already finished"
  | .nothingOpen => "close() called with no open block"
  | .unclosed blocks =>
    "unclosed block(s) at end of script: " ++ ", ".intercalate (blocks.map BlockKind.name)
  | .outsideConditional arm => arm ++ " outside of an open conditional"
  | .afterElse => "no branch may follow an else branch"

/-- The wording of every structural fault. -/
def wording (detail : String) : String := "structural fault: " ++ detail

def message (f : StructuralFault) : String := wording f.detail

def exitCode : Nat := 3

end StructuralFault

structure Builder where
  root : List Node := []
  frames : List Frame := []
  finished : Bool := false

namespace Builder

/-- Kinds of the open blocks, outermost first; the script itself is always one. -/
def kinds (b : Builder) : List BlockKind := .script :: (b.frames.map Frame.kind).reverse

def depth (b : Builder) : Nat := b.frames.length + 1

theorem length_kinds (b : Builder) : b.kinds.length = b.depth := by
  simp [kinds, depth]

/-- The kind of the block that is written to. -/
def current (b : Builder) : Except StructuralFault BlockKind :=
  if b.finished then .error .alreadyFinished
  else .ok ((b.frames.head?.map Frame.kind).getD .script)

/-- The builder with a node at the end of its innermost open block. -/
def add (b : Builder) (n : Node) : Builder :=
  match b.frames with
  | [] => { b with root := b.root ++ [n] }
  | top :: below => { b with frames := top.append n :: below }

def append (b : Builder) (n : Node) : Except StructuralFault Builder :=
  if b.finished then .error .alreadyFinished else .ok (b.add n)

def push (b : Builder) (f : Frame) : Except StructuralFault Builder :=
  if b.finished then .error .alreadyFinished else .ok { b with frames := f :: b.frames }

def openFold (b : Builder) (label : String) : Except StructuralFault Builder :=
  b.push (.fold label [])

def openConditional (b : Builder) (test : String) : Except StructuralFault Builder :=
  b.push (.conditional [] (some test) [])

/-- Begins the next arm of the innermost block, which has to be a conditional without an else. -/
def nextArm (b : Builder) (name : String) (test : Option String) :
    Except StructuralFault Builder :=
  if b.finished then .error .alreadyFinished
  else match b.frames with
    | .conditional closed (some last) body :: below =>
      .ok { b with frames := .conditional (closed ++ [⟨some last, body⟩]) test [] :: below }
    | .conditional _ none _ :: _ => .error .afterElse
    | .fold _ _ :: _ | [] => .error (.outsideConditional name)

def elseIf (b : Builder) (test : String) : Except StructuralFault Builder :=
  b.nextArm "elif" (some test)

def orElse (b : Builder) : Except StructuralFault Builder := b.nextArm "else" none

/-- Closes the innermost open block and hands its node to the block around it. -/
def close (b : Builder) : Except StructuralFault Builder :=
  if b.finished then .error .alreadyFinished
  else match b.frames with
    | [] => .error .nothingOpen
    | top :: below => .ok ({ b with frames := below }.add top.node)

/-- The whole script, when no block is open. Nothing can be written afterwards. -/
def finish (b : Builder) : Except StructuralFault (Script × Builder) :=
  if b.finished then .error .alreadyFinished
  else if b.frames = [] then .ok (b.root, { b with finished := true })
  else .error (.unclosed (b.frames.map Frame.kind).reverse)

end Builder

end BuildScript.Shell

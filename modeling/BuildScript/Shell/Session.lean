import BuildScript.Draft
import BuildScript.Shell.Outline

/-! # Sessions

Steps are builder calls as data. A session issues steps on named builders, some of which may
write to one shared stack of blocks.
-/

namespace BuildScript.Shell

inductive Step
  /-- A command whose colour is given by name, in a fold if a label is given. -/
  | command (c : Command) (color : Option String) (label : String)
  | assign (key : String) (value : Setting) (echo secure : Bool)
  | message (text : String) (color : Option String)
  | newline
  | raw (text : String)
  | openConditional (test : String)
  | elseIf (test : String)
  | orElse
  | openFold (label : String)
  | close
  | conditional (test : String) (body : List Step)
  | fold (label : String) (body : List Step)
  | abandon
  /-- Whatever a hook would do without these steps. -/
  | inherited

instance : Inhabited Step := ⟨.newline⟩

namespace Step

/-- The colour that a command asks for by name. -/
def colorOf : Option String → Except Draft.Fault (Option Color)
  | none => .ok none
  | some name =>
    match Color.ofName? name with
    | some c => .ok (some c)
    | none => .error (.unknownColor name)

def leaf (n : Node) : Drafting (Option Node) := do
  Drafting.append n
  pure (some n)

def block (action : Drafting Unit) : Drafting (Option Node) := do
  action
  pure none

mutual

/-- Runs a step; a step that writes a single node answers with it. -/
def run (inherited : Drafting Unit) : Step → Drafting (Option Node)
  | .command c color label =>
    match colorOf color with
    | .error e => throw e
    | .ok color => do
      Drafting.command { c with color := color } label
      pure (some (.command { c with color := color }))
  | .assign key value echo secure => leaf (.assign ⟨key, value.written .loose, echo, secure⟩)
  | .message text color => leaf (.command { text := messageLine text color })
  | .newline => leaf (.raw "echo")
  | .raw text => leaf (.raw text)
  | .openConditional test => block (Drafting.openConditional test)
  | .elseIf test => block (Drafting.elseIf test)
  | .orElse => block Drafting.orElse
  | .openFold label => block (Drafting.openFold label)
  | .close => block Drafting.close
  | .conditional test body => block (Drafting.conditional test (runAll inherited body))
  | .fold label body => block (Drafting.fold label (runAll inherited body))
  | .abandon => throw .abandoned
  | .inherited => block inherited

/-- Runs steps up to the first that fails. -/
def runAll (inherited : Drafting Unit) : List Step → Drafting Unit
  | [] => pure ()
  | step :: rest => do
    let _ ← run inherited step
    runAll inherited rest

end

end Step

/-- Builders by name. Names that share a stack have one index. -/
structure Session where
  builders : List Builder := [{}]
  handles : List (String × Nat) := [("main", 0)]
  scripts : List (String × Script) := []
  journal : Journal := []

namespace Session

/-- What is asked of a named builder. -/
inductive Request
  | step (s : Step)
  /-- A builder of the name comes into being, on a stack of its own or on that of another. -/
  | create (shared : Option String)
  | finish
  | render (level : Int)
  | dump
  | tree
  | current

inductive Answer
  | nothing
  | node (n : Node)
  | count (n : Nat)
  | text (s : String)
  | script (s : Script)
  | kind (k : BlockKind)

def stackOf (s : Session) (name : String) : Nat := (s.handles.lookup name).getD 0

def builderOf (s : Session) (name : String) : Builder := (s.builders[s.stackOf name]?).getD {}

def scriptOf (s : Session) (name : String) : Option Script := s.scripts.lookup name

/-- Runs a drafting action on a named builder. -/
def draft {α : Type} (s : Session) (name : String) (action : Drafting α) :
    Except Draft.Fault α × Session :=
  let (result, d) := action { builder := s.builderOf name, journal := s.journal }
  (result, { s with builders := s.builders.set (s.stackOf name) d.builder, journal := d.journal })

def create (s : Session) (name : String) : Option String → Session
  | some other => { s with handles := (name, s.stackOf other) :: s.handles }
  | none => { s with
      builders := s.builders ++ [{}]
      handles := (name, s.builders.length) :: s.handles }

/-- The dump of a script, unless half of a surrogate pair is left in it. -/
def dumped (script : Script) : Except Draft.Fault Answer :=
  match (Outline.ofScript script).encoded? with
  | some dump => .ok (.text dump)
  | none => .error .unencodable

def answer (s : Session) (name : String) : Request → Except Draft.Fault Answer × Session
  | .step step =>
    let (result, s) := s.draft name (step.run (pure ()))
    (result.map fun n => n.elim .nothing .node, s)
  | .create shared => (.ok .nothing, s.create name shared)
  | .finish =>
    let (result, s) := s.draft name Drafting.finish
    match result with
    | .ok script =>
      (.ok (.count script.length), { s with scripts := (name, script) :: s.scripts })
    | .error e => (.error e, s)
  | .render level =>
    (.ok ((s.scriptOf name).elim .nothing fun t => .text (t.render level)), s)
  | .dump => ((s.scriptOf name).elim (.ok .nothing) dumped, s)
  | .tree => (.ok ((s.scriptOf name).elim .nothing .script), s)
  | .current => ((s.builderOf name).current.map .kind |>.mapError .structural, s)

end Session

end BuildScript.Shell

import BuildScript.Journal
import BuildScript.Setting.Reading
import BuildScript.Shell.Builder
import BuildScript.Shell.Piece

/-! # Drafts

A draft is a builder and the journal so far. Drafting is writing to it: an action that fails
leaves what it has written up to then, open blocks included.
-/

namespace BuildScript

structure Draft where
  builder : Shell.Builder := {}
  journal : Journal := []

namespace Draft

/-- Why an action stopped. -/
inductive Fault
  | structural (f : Shell.StructuralFault)
  | misuse (m : Setting.Misuse)
  | unknownColor (name : String)
  | unknownAddon (name : String)
  /-- What was to run at a hook cannot be run. -/
  | notRunnable
  /-- The caller gave up inside an action of its own. -/
  | abandoned
  /-- A tree that is to be dumped holds half of a surrogate pair. -/
  | unencodable
deriving DecidableEq

def Fault.message? : Fault → Option String
  | .structural f => some f.message
  | .unknownColor name =>
    some ("Unknown color '" ++ name ++ "' (expected one of " ++
      ", ".intercalate (Shell.Color.all.map Shell.Color.name) ++ ")")
  | .unknownAddon name => some ("Unknown addon: " ++ name)
  | .misuse _ | .notRunnable | .abandoned | .unencodable => none

end Draft

abbrev Drafting := ExceptT Draft.Fault (StateM Draft)

namespace Drafting

open Shell

/-- Changes the builder, unless the change is out of nesting order. -/
def change (f : Builder → Except StructuralFault Builder) : Drafting Unit := fun d =>
  match f d.builder with
  | .ok b => (.ok (), { d with builder := b })
  | .error e => (.error (.structural e), d)

def note (n : Notice) : Drafting Unit :=
  modify fun d => { d with journal := d.journal ++ [n] }

/-- A read of a setting as an action. -/
def read {α : Type} : Except Setting.Misuse α → Drafting α
  | .ok a => pure a
  | .error m => throw (.misuse m)

def append (n : Node) : Drafting Unit := change fun b => b.append n

def raw (text : String) : Drafting Unit := append (.raw text)

def newline : Drafting Unit := raw "echo"

def assign (e : Export) : Drafting Unit := append (.assign e)

def openFold (label : String) : Drafting Unit := change fun b => b.openFold label

def openConditional (test : String) : Drafting Unit := change fun b => b.openConditional test

def elseIf (test : String) : Drafting Unit := change fun b => b.elseIf test

def orElse : Drafting Unit := change fun b => b.orElse

def close : Drafting Unit := change fun b => b.close

/-- Writes `body` into a new fold. A failure in the body leaves the fold open. -/
def fold (label : String) (body : Drafting Unit) : Drafting Unit := do
  openFold label
  body
  close

/-- Writes `body` into a new conditional. A failure in the body leaves the conditional open. -/
def conditional (test : String) (body : Drafting Unit) : Drafting Unit := do
  openConditional test
  body
  close

/-- Writes a command, in a fold of its own when a label is given. -/
def command (c : Command) (label : String := "") : Drafting Unit :=
  if label = "" then append (.command c) else fold label (append (.command c))

/-- Writes a command that prints a message. -/
def message (text : String) (color : Option Color := none) : Drafting Unit :=
  command { text := messageLine text (color.map Color.name) }

/-- Finishes the builder. -/
def finish : Drafting Script := do
  let d ← get
  match d.builder.finish with
  | .ok (script, b) =>
    set { d with builder := b }
    note (.finished script.length)
    pure script
  | .error e => throw (.structural e)

/-- Runs an action on a builder of its own; the journal goes on. -/
def aside {α : Type} (action : Drafting α) : Drafting α := fun d =>
  let (result, inner) := action { builder := {}, journal := d.journal }
  (result, { d with journal := inner.journal })

end Drafting

end BuildScript

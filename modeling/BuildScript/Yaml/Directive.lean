import BuildScript.Yaml.Cursor

/-! # Directives

Lines before a document that are about the document: the version of the notation, a handle that
stands for the beginning of tags, and others, which are passed over. A document has at most one
version, whose first number is one, and gives a handle at most once.
-/

namespace BuildScript.Yaml

inductive Directive
  | version (major : Nat)
  | handle (name : List Char)
  | other
deriving DecidableEq

namespace Directive

def isWordChar (c : Char) : Bool := c.isAlphanum || c == '-' || c == '_'

/-- Characters that may stand in what a handle stands for. -/
def isAddressChar (c : Char) : Bool :=
  isWordChar c ||
    [';', '/', '?', ':', '@', '&', '=', '+', '$', ',', '.', '!', '~', '*', '\'', '(', ')', '[', ']',
      '%'].contains c

/-- One or more characters of a class. -/
def run? (p : Char → Bool) (c : Cursor) : Option (List Char × Cursor) :=
  let (found, after) := c.takeWhile p
  if found.isEmpty then none else some (found, after)

/-- A character that has to stand at the cursor. -/
def expect? (ch : Char) (c : Cursor) : Option Cursor :=
  if c.peek == some ch then some c.next else none

def version? (c : Cursor) : Option (Directive × Cursor) := do
  let (major, c) ← run? Char.isDigit c.skipBlanks
  let c ← expect? '.' c
  let (_, c) ← run? Char.isDigit c
  pure (.version (major.foldl (fun n d => n * 10 + (d.toNat - 48)) 0), c)

def handle? (c : Cursor) : Option (Directive × Cursor) := do
  let c ← expect? '!' c.skipBlanks
  let (name, c) := c.takeWhile isWordChar
  let c ← if name.isEmpty && c.peek == some ' ' then some c else expect? '!' c
  let c ← expect? ' ' c
  let (_, c) ← run? isAddressChar c.skipBlanks
  pure (.handle name, c)

/-- The directive whose mark stands at the cursor, with the cursor after its line. -/
def at? (c : Cursor) : Option (Directive × Cursor) := do
  let (name, c) ← run? isWordChar c.next
  if !endsToken c.peek || c.peek == some '\t' then none
  else
    let (d, c) ← match String.ofList name with
      | "YAML" => version? c
      | "TAG" => handle? c
      | _ => some (.other, (c.takeWhile fun ch => !isBreak ch).2)
    let c ← c.lineEnd?
    pure (d, c)

/-- Whether a document may have a directive after those in `seen`. -/
def mayFollow (seen : List Directive) : Directive → Bool
  | .version major =>
    major == 1 && !seen.any fun | .version _ => true | _ => false
  | .handle name => !seen.contains (.handle name)
  | .other => true

/-- Whether a document may have these directives together. -/
def agree (seen : List Directive) : List Directive → Bool
  | [] => true
  | d :: rest => d.mayFollow seen && agree (d :: seen) rest

end Directive

end BuildScript.Yaml

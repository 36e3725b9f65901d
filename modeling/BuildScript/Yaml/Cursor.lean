/-! # Cursors

A position in a text: the characters that are left, the line and the column. A byte order mark
has no width.
-/

namespace BuildScript.Yaml

structure Cursor where
  rest : List Char
  line : Nat := 0
  column : Nat := 0
  index : Nat := 0

def isBreak (c : Char) : Bool :=
  c == '\n' || c == '\x85' || c == '\u2028' || c == '\u2029'

/-- The line break that a text keeps of a line break that was read. -/
def keptBreak (c : Char) : Char := if c == '\x85' then '\n' else c

/-- Whether a token ends here: at a blank, a line break, or the end of the text. -/
def endsToken : Option Char → Bool
  | none => true
  | some c => c == ' ' || c == '\t' || isBreak c

namespace Cursor

def peek (c : Cursor) : Option Char := c.rest.head?

def peekAt (c : Cursor) (n : Nat) : Option Char := c.rest[n]?

def next (c : Cursor) : Cursor :=
  match c.rest with
  | [] => c
  | ch :: rest =>
    if isBreak ch then ⟨rest, c.line + 1, 0, c.index + 1⟩
    else if ch = '\ufeff' then ⟨rest, c.line, c.column, c.index + 1⟩
    else ⟨rest, c.line, c.column + 1, c.index + 1⟩

def skip (c : Cursor) : Nat → Cursor
  | 0 => c
  | n + 1 => c.next.skip n

/-- The longest run of characters of a class, and the cursor after it. -/
def takeWhile (c : Cursor) (p : Char → Bool) : List Char × Cursor :=
  let run := c.rest.takeWhile p
  (run, c.skip run.length)

def skipBlanks (c : Cursor) : Cursor := (c.takeWhile (· == ' ')).2

/-- The line break at the cursor, in the form that is kept. -/
def lineBreak? (c : Cursor) : Option (Char × Cursor) :=
  match c.rest with
  | ch :: _ => if isBreak ch then some (keptBreak ch, c.next) else none
  | [] => none

/-- The cursor after the line, on which only a comment may stand. -/
def lineEnd? (c : Cursor) : Option Cursor :=
  if !endsToken c.peek || c.peek == some '\t' then none
  else
    let c := c.skipBlanks
    let c := if c.peek == some '#' then (c.takeWhile fun ch => !isBreak ch).2 else c
    match c.peek, c.lineBreak? with
    | _, some (_, c) => some c
    | none, none => some c
    | some _, none => none

/-- Whether a marker of a document's start or end stands at the cursor. -/
def atMarker (c : Cursor) (mark : Char) : Bool :=
  c.rest.take 3 == [mark, mark, mark] && endsToken (c.peekAt 3)

def atSeparator (c : Cursor) : Bool := c.atMarker '-' || c.atMarker '.'

end Cursor

end BuildScript.Yaml

import BuildScript.Yaml.Block
import BuildScript.Yaml.Directive
import BuildScript.Yaml.Flow

/-! # Tokens

The marks and scalars of a document in order. Blocks are opened and closed by the indentation of
their lines. That a scalar was a key is known only at its colon, so the mark of a key is put in
at a place that was kept. A text that cannot be divided further ends with a fault.
-/

namespace BuildScript.Yaml

inductive Token
  | documentStart
  | documentEnd
  | directive (d : Directive)
  | sequenceStart
  | mappingStart
  | blockEnd
  | flowSequenceStart
  | flowSequenceEnd
  | flowMappingStart
  | flowMappingEnd
  | entry
  | flowEntry
  | key
  | value
  | scalar (text : String) (isPlain : Bool)
  | fault (f : Fault)
deriving DecidableEq

/-- The place of a token that may turn out to be a key. -/
structure KeyPlace where
  position : Nat
  required : Bool
  line : Nat
  column : Nat
  index : Nat

/-- The state of reading tokens. -/
structure Reader where
  cursor : Cursor
  tokens : List Token := []
  indent : Int := -1
  outer : List Int := []
  keyAllowed : Bool := true
  /-- A place for each level of flow collections, innermost first; the last is for blocks. -/
  places : List (Option KeyPlace) := [none]
  finished : Bool := false

namespace Reader

def inFlow (r : Reader) : Bool := decide (1 < r.places.length)

def emit (r : Reader) (t : Token) : Reader := { r with tokens := r.tokens ++ [t] }

/-- Puts tokens in at a position that was kept. -/
def insert (r : Reader) (position : Nat) (ts : List Token) : Reader :=
  { r with tokens := r.tokens.take position ++ ts ++ r.tokens.drop position }

def moveTo (r : Reader) (c : Cursor) : Reader := { r with cursor := c }

def allowKey (r : Reader) (b : Bool) : Reader := { r with keyAllowed := b }

/-- Whether a kept place can no longer be that of a key: a key ends on its line. -/
def isStale (r : Reader) (p : KeyPlace) : Bool :=
  p.line != r.cursor.line || decide (1024 < r.cursor.index - p.index)

/-- Drops stale places; one that had to be a key is an error. -/
def dropStale (r : Reader) : Except Fault Reader :=
  if r.places.any fun p => p.any fun p => r.isStale p && p.required then .error .malformed
  else .ok { r with places := r.places.map fun p => p.filter fun p => !r.isStale p }

/-- Gives up the place at the current level. -/
def dropPlace (r : Reader) : Except Fault Reader :=
  match r.places with
  | some p :: rest => if p.required then .error .malformed else .ok { r with places := none :: rest }
  | _ => .ok r

/-- Keeps the place of the next token at the current level, if a key may stand here. -/
def keepPlace (r : Reader) : Except Fault Reader :=
  if r.keyAllowed then
    (dropPlace r).map fun r =>
      let c := r.cursor
      let place : KeyPlace :=
        ⟨r.tokens.length, !r.inFlow && decide (r.indent = c.column), c.line, c.column, c.index⟩
      { r with places := some place :: r.places.drop 1 }
  else .ok r

/-- Closes the blocks that are indented deeper than a column. -/
def unwindTo (column : Int) : Int → List Int → List Token → Int × List Int × List Token
  | indent, outer, tokens =>
    match outer with
    | [] => (indent, [], tokens)
    | next :: rest =>
      if column < indent then unwindTo column next rest (tokens ++ [.blockEnd])
      else (indent, next :: rest, tokens)

def unwind (r : Reader) (column : Int) : Reader :=
  if r.inFlow then r
  else
    let (indent, outer, tokens) := unwindTo column r.indent r.outer r.tokens
    { r with indent := indent, outer := outer, tokens := tokens }

/-- Opens a block at a column that is deeper than the current one. -/
def openBlock (r : Reader) (column position : Nat) (t : Token) : Reader :=
  if r.indent < column then
    { r.insert position [t] with indent := column, outer := r.indent :: r.outer }
  else r

/-- Moves over blanks, comments and line breaks to the next token. -/
def toToken (r : Reader) : Nat → Reader
  | 0 => r
  | fuel + 1 =>
    let c := r.cursor.skipBlanks
    let c := if c.peek == some '#' then (c.takeWhile fun ch => !isBreak ch).2 else c
    match c.lineBreak? with
    | some (_, c) => toToken { r with cursor := c, keyAllowed := r.keyAllowed || !r.inFlow } fuel
    | none => r.moveTo c

/-- A mark of one character. -/
def mark (r : Reader) (t : Token) : Reader := (r.moveTo r.cursor.next).emit t

def finish (r : Reader) : Except Fault Reader :=
  (r.unwind (-1)).dropPlace.map fun r => { r with finished := true }

/-- A marker of a document, after which nothing is a key. -/
def marker (r : Reader) (t : Token) : Except Fault Reader :=
  (r.unwind (-1)).dropPlace.map fun r =>
    ((r.allowKey false).moveTo (r.cursor.skip 3)).emit t

def directive (r : Reader) : Except Fault Reader := do
  let r ← (r.unwind (-1)).dropPlace
  let (d, after) ← orMalformed (Directive.at? r.cursor)
  pure (((r.allowKey false).moveTo after).emit (.directive d))

def openFlow (r : Reader) (t : Token) : Except Fault Reader :=
  r.keepPlace.map fun r => (({ r with places := none :: r.places }).allowKey true).mark t

def closeFlow (r : Reader) (t : Token) : Except Fault Reader :=
  if r.inFlow then
    r.dropPlace.map fun r => (({ r with places := r.places.drop 1 }).allowKey false).mark t
  else .error .malformed

def flowEntry (r : Reader) : Except Fault Reader :=
  (r.allowKey true).dropPlace.map fun r => r.mark .flowEntry

/-- The mark of a new block, if a block may begin here. -/
def beginBlock (r : Reader) (t : Token) : Except Fault Reader :=
  if r.inFlow then .ok r
  else if r.keyAllowed then .ok (r.openBlock r.cursor.column r.tokens.length t)
  else .error .malformed

def entry (r : Reader) : Except Fault Reader := do
  let r ← r.beginBlock .sequenceStart
  let r ← (r.allowKey true).dropPlace
  pure (r.mark .entry)

def explicitKey (r : Reader) : Except Fault Reader := do
  let r ← r.beginBlock .mappingStart
  let r ← (r.allowKey (!r.inFlow)).dropPlace
  pure (r.mark .key)

/-- A colon makes the token at the kept place a key. -/
def value (r : Reader) : Except Fault Reader :=
  match r.places with
  | some p :: rest =>
    let r := ({ r with places := none :: rest }).insert p.position [.key]
    let r := if r.inFlow then r else r.openBlock p.column p.position .mappingStart
    .ok ((r.allowKey false).mark .value)
  | _ => do
    let r ← r.beginBlock .mappingStart
    let r ← (r.allowKey (!r.inFlow)).dropPlace
    pure (r.mark .value)

def emitScalar (r : Reader) (text : List Char) (isPlain : Bool) (after : Cursor) : Reader :=
  (r.moveTo after).emit (.scalar (String.ofList text) isPlain)

def quotedScalar (r : Reader) (quote : Char) : Except Fault Reader := do
  let r ← r.keepPlace
  let (text, after) ← quoted quote r.cursor
  pure ((r.allowKey false).emitScalar text false after)

def blockScalar (r : Reader) (isFolded : Bool) : Except Fault Reader := do
  let r ← (r.allowKey true).dropPlace
  let (text, after) ← orMalformed (block? isFolded r.indent r.cursor)
  pure (r.emitScalar text false after)

def plainScalar (r : Reader) : Except Fault Reader := do
  let r ← r.keepPlace
  let (text, gap) := plain r.inFlow (r.indent + 1) r.cursor
  pure ((r.allowKey gap.hasBreak).emitScalar text true gap.after)

/-- Characters that no plain scalar starts with. -/
def indicators : List Char :=
  ['-', '?', ':', ',', '[', ']', '\x7b', '\x7d', '#', '&', '*', '!', '|', '>', '\'', '"', '%',
    '@', '\x60']

def startsPlain (r : Reader) (c : Char) : Bool :=
  !(endsToken (some c) || indicators.contains c) ||
    (!endsToken (r.cursor.peekAt 1) &&
      (c == '-' || (!r.inFlow && (c == '?' || c == ':'))))

/-- Reads the token at the cursor. -/
def readToken (r : Reader) : Except Fault Reader :=
  let c := r.cursor
  match c.peek with
  | none => r.finish
  | some ch =>
    let alone := endsToken (c.peekAt 1)
    if ch = '%' && c.column = 0 then r.directive
    else if c.column = 0 && c.atMarker '-' then r.marker .documentStart
    else if c.column = 0 && c.atMarker '.' then r.marker .documentEnd
    else if ch = '[' then r.openFlow .flowSequenceStart
    else if ch = '\x7b' then r.openFlow .flowMappingStart
    else if ch = ']' then r.closeFlow .flowSequenceEnd
    else if ch = '\x7d' then r.closeFlow .flowMappingEnd
    else if ch = ',' then r.flowEntry
    else if ch = '-' && alone then r.entry
    else if ch = '?' && (r.inFlow || alone) then r.explicitKey
    else if ch = ':' && (r.inFlow || alone) then r.value
    else if ch = '|' && !r.inFlow then r.blockScalar false
    else if ch = '>' && !r.inFlow then r.blockScalar true
    else if ch = '\'' || ch = '"' then r.quotedScalar ch
    else if r.startsPlain ch then r.plainScalar
    else .error .malformed

/-- The tokens before the first place that is kept: what they mean is settled. -/
def settled (r : Reader) : List Token :=
  let kept := r.places.filterMap fun p => p.filter fun p => !r.isStale p
  r.tokens.take ((kept.map KeyPlace.position).foldl min r.tokens.length)

/-- Reads one token more, after what stands before it. -/
def advance (r : Reader) : Except Fault Reader := do
  let r ← (r.toToken (r.cursor.rest.length + 1)).dropStale
  (r.unwind r.cursor.column).readToken

/-- Reads on to the end of the text, or to what cannot be read. -/
def readAll (r : Reader) : Nat → List Token
  | 0 => [.fault .malformed]
  | fuel + 1 =>
    match r.advance with
    | .ok next => if next.finished then next.tokens else readAll next fuel
    | .error f => r.settled ++ [.fault f]

end Reader

/-- The tokens of a text. -/
def tokens (cs : List Char) : List Token :=
  let start : Cursor := ⟨if cs.head? = some '\ufeff' then cs.drop 1 else cs, 0, 0, 0⟩
  Reader.readAll { cursor := start } (cs.length + 2)

end BuildScript.Yaml

import BuildScript.Yaml.Cursor

/-! # Scalars of block style

Literal scalars keep their lines; folded ones join lines of equal indentation. The header says
what becomes of the line breaks at the end and, if it has to, how deep the text is indented.
-/

namespace BuildScript.Yaml

/-- What becomes of the line breaks at the end of a block scalar. -/
inductive Chomping
  | strip
  | clip
  | keep
deriving DecidableEq

structure BlockHeader where
  chomping : Chomping := .clip
  indent : Option Nat := none

def chomping? (c : Char) : Option Chomping := [('+', Chomping.keep), ('-', .strip)].lookup c

def indent? (c : Char) : Option Nat :=
  if '1' ≤ c && c ≤ '9' then some (c.toNat - 48) else none

/-- The indicators after the mark of a block scalar, in either order. -/
def blockHeader (c : Cursor) : BlockHeader × Cursor :=
  let second (c : Cursor) {α : Type} (read : Char → Option α) : Option α × Cursor :=
    match c.peek.bind read with
    | some a => (some a, c.next)
    | none => (none, c)
  match second c chomping? with
  | (some chomping, c) =>
    let (indent, c) := second c indent?
    (⟨chomping, indent⟩, c)
  | (none, c) =>
    let (indent, c) := second c indent?
    if indent.isSome then
      let (chomping, c) := second c chomping?
      (⟨chomping.getD .clip, indent⟩, c)
    else (⟨.clip, none⟩, c)

/-- Blank lines at the start, and the deepest column that they reach. -/
def leadingLines (c : Cursor) (deepest : Nat) : Nat → List Char × Nat × Cursor
  | 0 => ([], deepest, c)
  | fuel + 1 =>
    match c.rest with
    | ' ' :: _ => leadingLines c.next (max deepest c.next.column) fuel
    | ch :: _ =>
      if isBreak ch then
        let (more, deepest, after) := leadingLines c.next deepest fuel
        (keptBreak ch :: more, deepest, after)
      else ([], deepest, c)
    | [] => ([], deepest, c)

/-- Blanks up to a column. -/
def skipToColumn (indent : Nat) (c : Cursor) : Cursor :=
  c.skip ((c.rest.take (indent - c.column)).takeWhile (· == ' ')).length

/-- Blank lines between two lines of text, and the indentation of the next. -/
def blankLines (indent : Nat) (c : Cursor) : Nat → List Char × Cursor
  | 0 => ([], c)
  | fuel + 1 =>
    let c := skipToColumn indent c
    match c.lineBreak? with
    | some (b, c) =>
      let (more, c) := blankLines indent c fuel
      (b :: more, c)
    | none => ([], c)

def startsBlank (c : Cursor) : Bool := c.peek == some ' ' || c.peek == some '\t'

/-- What remains of the line breaks at the end. -/
def chomped (chomping : Chomping) (last : List Char) (breaks : List Char) : List Char :=
  match chomping with
  | .strip => []
  | .clip => last
  | .keep => last ++ breaks

/-- Lines of text from the indentation on, after the blank lines in `breaks`. `last` is the line
break of the line before. -/
def blockLines (isFolded : Bool) (chomping : Chomping) (indent : Nat) (breaks last : List Char)
    (c : Cursor) : Nat → List Char × Cursor
  | 0 => ([], c)
  | fuel + 1 =>
    if c.column = indent && c.peek.isSome then
      let flush := !startsBlank c
      let (line, after) := c.takeWhile fun ch => !isBreak ch
      let (lineEnd, next) := match after.lineBreak? with
        | some (b, next) => ([b], next)
        | none => ([], after)
      let (more, next) := blankLines indent next (next.rest.length + 1)
      if next.column = indent && next.peek.isSome then
        let join :=
          if isFolded && lineEnd == ['\n'] && flush && !startsBlank next then
            if more.isEmpty then [' '] else []
          else lineEnd
        let (text, final) := blockLines isFolded chomping indent more [] next fuel
        (breaks ++ line ++ join ++ text, final)
      else (breaks ++ line ++ chomped chomping lineEnd more, next)
    else (chomped chomping last breaks, c)

/-- The block scalar whose mark stands at the cursor, inside a block of the given indentation. -/
def block? (isFolded : Bool) (parent : Int) (c : Cursor) : Option (List Char × Cursor) :=
  let (header, c) := blockHeader c.next
  match c.lineEnd? with
  | none => none
  | some c =>
    let least := max (parent + 1) 1
    let fuel := c.rest.length + 1
    match header.indent with
    | none =>
      let (breaks, deepest, c) := leadingLines c 0 fuel
      let indent := max least.toNat deepest
      some (blockLines isFolded header.chomping indent breaks [] c fuel)
    | some n =>
      let indent := (least + n - 1).toNat
      let (breaks, c) := blankLines indent c fuel
      some (blockLines isFolded header.chomping indent breaks [] c fuel)

end BuildScript.Yaml

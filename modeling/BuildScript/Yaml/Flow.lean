import BuildScript.Text.Surrogate
import BuildScript.Yaml.Cursor
import BuildScript.Yaml.Fault

/-! # Scalars of flow style

Plain and quoted scalars. They may go on over several lines: a single line break in them is read
as a blank, and of several the first is dropped.
-/

namespace BuildScript.Yaml

/-- What a line break and the breaks after it are read as. -/
def folded (first : Char) (more : List Char) : List Char :=
  (if first != '\n' then [first] else if more.isEmpty then [' '] else []) ++ more

/-! ## Quoted scalars -/

def isHexDigit (c : Char) : Bool :=
  c.isDigit || ('a' ≤ c && c ≤ 'f') || ('A' ≤ c && c ≤ 'F')

def hexDigitValue (c : Char) : Nat :=
  if c.isDigit then c.toNat - 48
  else if 'a' ≤ c then c.toNat - 87
  else c.toNat - 55

/-- The character that a single character after a backslash stands for. -/
def escaped? (c : Char) : Option Char :=
  [('0', '\x00'), ('a', '\x07'), ('b', '\x08'), ('t', '\t'), ('\t', '\t'), ('n', '\n'),
    ('v', '\x0b'), ('f', '\x0c'), ('r', '\r'), ('e', '\x1b'), (' ', ' '), ('"', '"'),
    ('\\', '\\'), ('/', '/'), ('N', '\x85'), ('_', '\xa0'), ('L', '\u2028'),
    ('P', '\u2029')].lookup c

/-- The number of digits of a character that is given by its code point. -/
def escapeWidth? (c : Char) : Option Nat := [('x', 2), ('u', 4), ('U', 8)].lookup c

/-- Line breaks after the first inside quotes. A document marker is not allowed among them. -/
def quotedBreaks (c : Cursor) : Nat → Option (List Char × Cursor)
  | 0 => none
  | fuel + 1 =>
    if c.atSeparator then none
    else
      let c := (c.takeWhile fun ch => ch == ' ' || ch == '\t').2
      match c.lineBreak? with
      | some (b, c) => (quotedBreaks c fuel).map fun r => (b :: r.1, r.2)
      | none => some ([], c)

/-- The code point whose digits stand at the cursor. -/
def code? (width : Nat) (c : Cursor) : Option (Nat × Cursor) :=
  let digits := c.rest.take width
  if digits.length = width && digits.all isHexDigit then
    some (digits.foldl (fun n d => n * 16 + hexDigitValue d) 0, c.skip width)
  else none

/-- What stands for a code point, which may be half of a surrogate pair. -/
def coded (code : Nat) : Except Fault (List Char) :=
  if 0x110000 ≤ code then .error (.codePoint code)
  else if 0xd800 ≤ code && code < 0xe000 then .ok (Text.surrogate code)
  else .ok [Char.ofNat code]

/-- An escape, from the character after the backslash on. -/
def escape (c : Cursor) (fuel : Nat) : Except Fault (List Char × Cursor) :=
  match c.peek with
  | none => .error .malformed
  | some ch =>
    match escaped? ch, escapeWidth? ch with
    | some meaning, _ => .ok ([meaning], c.next)
    | none, some width => do
      let (code, c) ← orMalformed (code? width c.next)
      pure (← coded code, c)
    | none, none =>
      orMalformed (c.lineBreak?.bind fun b => quotedBreaks b.2 fuel)

/-- The text up to the closing quote, with the cursor after it. -/
def quotedFrom (quote : Char) (c : Cursor) : Nat → Except Fault (List Char × Cursor)
  | 0 => .error .malformed
  | fuel + 1 =>
    let continueWith (found : List Char) (c : Cursor) : Except Fault (List Char × Cursor) :=
      (quotedFrom quote c fuel).map fun r => (found ++ r.1, r.2)
    match c.peek with
    | none => .error .malformed
    | some ch =>
      if ch = quote then
        if quote = '\'' && c.peekAt 1 == some '\'' then continueWith ['\''] (c.skip 2)
        else .ok ([], c.next)
      else if ch = '\\' && quote = '"' then
        match escape c.next (c.rest.length + 1) with
        | .ok (found, c) => continueWith found c
        | .error f => .error f
      else if ch == ' ' || ch == '\t' || isBreak ch then
        let (blanks, after) := c.takeWhile fun ch => ch == ' ' || ch == '\t'
        match after.lineBreak? with
        | some (b, c) =>
          match quotedBreaks c (c.rest.length + 1) with
          | some (more, c) => continueWith (folded b more) c
          | none => .error .malformed
        | none => continueWith blanks after
      else continueWith [ch] c.next

/-- The scalar between the quote at the cursor and the one that closes it. -/
def quoted (quote : Char) (c : Cursor) : Except Fault (List Char × Cursor) :=
  quotedFrom quote c.next (c.rest.length + 1)

/-! ## Plain scalars -/

def isFlowIndicator (c : Char) : Bool :=
  c == ',' || c == '[' || c == ']' || c == '\x7b' || c == '\x7d'

/-- Whether a plain scalar ends before the first of these characters. -/
def endsPlain (inFlow : Bool) : List Char → Bool
  | [] => true
  | c :: rest =>
    endsToken (some c) ||
      (c == ':' && (endsToken rest.head? || (inFlow && rest.head?.any isFlowIndicator))) ||
      (inFlow && (c == '?' || isFlowIndicator c))

/-- The part of a plain scalar on one line, up to a blank. -/
def plainWord (inFlow : Bool) : List Char → List Char
  | [] => []
  | c :: rest => if endsPlain inFlow (c :: rest) then [] else c :: plainWord inFlow rest

/-- What stands between two words of a plain scalar. -/
structure PlainGap where
  /-- The characters it is read as; none if the scalar ends here. -/
  text : List Char
  hasBreak : Bool
  after : Cursor

/-- Blank lines between two lines of a plain scalar; nothing if a document marker follows. -/
def plainBreaks (c : Cursor) : Nat → Option (List Char) × Cursor
  | 0 => (none, c)
  | fuel + 1 =>
    match c.rest with
    | ' ' :: _ => plainBreaks c.next fuel
    | ch :: _ =>
      if isBreak ch then
        let after := c.next
        if after.atSeparator then (none, after)
        else
          let (more, c) := plainBreaks after fuel
          (more.map (keptBreak ch :: ·), c)
      else (some [], c)
    | [] => (some [], c)

def plainGap (c : Cursor) : PlainGap :=
  let (blanks, after) := c.takeWhile (· == ' ')
  match after.lineBreak? with
  | none => ⟨blanks, false, after⟩
  | some (b, start) =>
    if start.atSeparator then ⟨[], true, start⟩
    else
      match plainBreaks start (start.rest.length + 1) with
      | (none, c) => ⟨[], true, c⟩
      | (some more, c) => ⟨folded b more, true, c⟩

/-- A plain scalar that goes on only in columns from `indent` on, with the gap after it. -/
def plainFrom (inFlow : Bool) (indent : Int) (c : Cursor) : Nat → List Char × PlainGap
  | 0 => ([], ⟨[], false, c⟩)
  | fuel + 1 =>
    let word := plainWord inFlow c.rest
    let gap := plainGap (c.skip word.length)
    let next := gap.after
    if gap.text.isEmpty || next.peek == some '#' || (!inFlow && decide (next.column < indent)) ||
        endsPlain inFlow next.rest then
      (word, gap)
    else
      let (more, last) := plainFrom inFlow indent next fuel
      (word ++ gap.text ++ more, last)

/-- The plain scalar at the cursor. -/
def plain (inFlow : Bool) (indent : Int) (c : Cursor) : List Char × PlainGap :=
  plainFrom inFlow indent c (c.rest.length + 1)

end BuildScript.Yaml

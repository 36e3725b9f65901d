import BuildScript.Template.Name
import BuildScript.Text.Blank
import BuildScript.Text.Identifier
import BuildScript.Text.Lines

/-! # Reading templates

The notation of templates: values between double braces, choices between tags, and comments. A
tag or a comment takes the blanks before it on its line and the newline right after it, unless a
plus at its edge keeps them; a minus at the edge of any mark takes all blanks on that side. The
last newline of a template does not count. A comment may be left open at the very end.
-/

namespace BuildScript.Template

inductive MarkKind
  | output
  | tag
  | comment
deriving DecidableEq

def MarkKind.closing : MarkKind → Char
  | .output => '\x7d'
  | .tag => '%'
  | .comment => '#'

def MarkKind.opening : MarkKind → Char
  | .output => '\x7b'
  | kind => kind.closing

/-- What the edge of a mark asks for. -/
inductive Sign
  | plain
  | strip
  | keep
deriving DecidableEq

def sign? (c : Char) : Option Sign := [('-', Sign.strip), ('+', .keep)].lookup c

inductive Token
  | text (s : List Char)
  | mark (kind : MarkKind) (opening closing : Sign) (inner : List Char)

/-- A mark from the characters between its delimiters. An output keeps a plus at its end. -/
def Token.ofInner (kind : MarkKind) (inner : List Char) : Token :=
  let opening := (inner.head?.bind sign?).getD .plain
  let inner := if opening = .plain then inner else inner.drop 1
  let found := (inner.getLast?.bind sign?).getD .plain
  let closing := if kind = .output ∧ found = .keep then .plain else found
  .mark kind opening closing (if closing = .plain then inner else inner.dropLast)

/-- The tokens at the end of a template: the last text, or a comment of which only the beginning is
there. -/
def lexEnd (inside : Option MarkKind) (read : List Char) : Option (List Token) :=
  match inside, read with
  | none, read => some [.text read.reverse]
  | some .comment, [] => some [Token.ofInner .comment []]
  | some .comment, [c] => if (sign? c).isSome then some [Token.ofInner .comment [c]] else none
  | _, _ => none

/-- Tokens of a template, a text between any two marks. `inside` is the mark that is open, and
`read` holds what was read in it or since the last one, last character first. -/
def lex (inside : Option MarkKind) (read : List Char) : List Char → Option (List Token)
  | [] => lexEnd inside read
  | [c] => lex inside (c :: read) []
  | c :: d :: rest =>
    match inside with
    | none =>
      match [MarkKind.output, .tag, .comment].find? fun k => c == '\x7b' && d == k.opening with
      | some kind => (lex (some kind) [] rest).map (.text read.reverse :: ·)
      | none => lex none (c :: read) (d :: rest)
    | some kind =>
      if c == kind.closing && d == '\x7d' then
        (lex none [] rest).map (Token.ofInner kind read.reverse :: ·)
      else lex (some kind) (c :: read) (d :: rest)

/-! ## Blanks around marks -/

/-- The beginning of a text that the mark before it takes. -/
def takenAfter (kind : MarkKind) (closing : Sign) (s : List Char) : List Char :=
  match closing, kind, s with
  | .strip, _, s => s.takeWhile Text.isBlank
  | .plain, .tag, '\n' :: _ => ['\n']
  | .plain, .comment, '\n' :: _ => ['\n']
  | _, _, _ => []

/-- Drops the blanks at the end of a text. -/
def dropBlanksAtEnd (s : List Char) : List Char := (s.reverse.dropWhile Text.isBlank).reverse

/-- Drops the blanks of the last line. They count only if the line begins within the text or the
text begins a line. -/
def dropMargin (lineStart : Bool) (s : List Char) : List Char :=
  let margin := s.reverse.takeWhile fun c => c != '\n'
  let before := s.reverse.dropWhile fun c => c != '\n'
  if margin.all Text.isBlank && (lineStart || !before.isEmpty) then before.reverse else s

/-- What the mark after a text leaves of it. -/
def leftBefore (kind : MarkKind) (opening : Sign) (lineStart : Bool) (s : List Char) :
    List Char :=
  match opening, kind with
  | .strip, _ => dropBlanksAtEnd s
  | .keep, _ => s
  | .plain, .output => s
  | .plain, _ => dropMargin lineStart s

/-- What the marks leave of the texts between them. `taken` is the beginning of the next text
that is already taken. -/
def trim (taken : List Char → List Char) : List Token → List Token
  | [] => []
  | .mark kind opening closing inner :: rest =>
    .mark kind opening closing inner :: trim (takenAfter kind closing) rest
  | .text s :: rest =>
    let gone := taken s
    let s := s.drop gone.length
    let kept := match rest with
      | .mark kind opening _ _ :: _ => leftBefore kind opening (gone.getLast? == some '\n') s
      | _ => s
    .text kept :: trim (fun _ => []) rest

/-! ## Names and tags -/

/-- Words between blanks. -/
def words (cs : List Char) : List (List Char) :=
  (cs.splitBy fun a b => Text.isBlank a == Text.isBlank b).filter fun w =>
    !(w.all Text.isBlank)

/-- Whether a word names a value. Names know the marks of Unicode 9 only, and one word is an
operation that has no operand. -/
def isName (w : List Char) : Bool :=
  Text.isIdentifier w && !w.any Text.isLaterTail && w != ['n', 'o', 't']

def name? (cs : List Char) : Option String :=
  match words cs with
  | [w] => if isName w then some (String.ofList w) else none
  | _ => none

inductive Tag
  | whenSet (name : String)
  | otherwiseWhenSet (name : String)
  | otherwise
  | endChoice
deriving DecidableEq

/-- Drops a colon at the end of a tag that opens an arm. -/
def dropColon (cs : List Char) : List Char :=
  match cs.reverse.dropWhile Text.isBlank with
  | ':' :: before => before.reverse
  | _ => cs

def tag? (cs : List Char) : Option Tag :=
  match (words (dropColon cs)).map String.ofList, words cs with
  | ["if", name], _ => if isName name.toList then some (.whenSet name) else none
  | ["elif", name], _ => if isName name.toList then some (.otherwiseWhenSet name) else none
  | ["else"], _ => some .otherwise
  | ["endif"], [_] => if cs.contains ':' then none else some .endChoice
  | _, _ => none

/-! ## Parts -/

/-- A choice that is still open: the parts before it, the arms that are complete, and the name on
which the current arm hangs, if it is not the last. -/
structure OpenChoice where
  before : List Part
  arms : List (String × List Part)
  current : Option String

/-- Puts arms together, the last one without a name. -/
def chain (otherwise : List Part) : List (String × List Part) → List Part
  | [] => otherwise
  | (name, yes) :: rest => [.choice name yes (chain otherwise rest)]

/-- The parts of an open choice and what is before it, with `parts` in the current arm. -/
def OpenChoice.close (c : OpenChoice) (parts : List Part) : List Part :=
  c.before ++ match c.current with
    | some name => chain [] (c.arms ++ [(name, parts)])
    | none => chain parts c.arms

/-- Puts tokens together. `parts` are those of the innermost open choice. -/
def assemble (choices : List OpenChoice) (parts : List Part) : List Token → Option (List Part)
  | [] => if choices.isEmpty then some parts else none
  | .text [] :: rest => assemble choices parts rest
  | .text s :: rest => assemble choices (parts ++ [.text (String.ofList s)]) rest
  | .mark .comment _ _ _ :: rest => assemble choices parts rest
  | .mark .output _ _ inner :: rest =>
    match name? inner with
    | some name => assemble choices (parts ++ [.value name]) rest
    | none => none
  | .mark .tag _ _ inner :: rest =>
    match tag? inner, choices with
    | some (.whenSet name), choices => assemble (⟨parts, [], some name⟩ :: choices) [] rest
    | some (.otherwiseWhenSet next), ⟨before, arms, some name⟩ :: outer =>
      assemble (⟨before, arms ++ [(name, parts)], some next⟩ :: outer) [] rest
    | some .otherwise, ⟨before, arms, some name⟩ :: outer =>
      assemble (⟨before, arms ++ [(name, parts)], none⟩ :: outer) [] rest
    | some .endChoice, c :: outer => assemble outer (c.close parts) rest
    | _, _ => none

/-- How deep the choices of a template lie in each other at most. -/
def depth (level : Nat) : List Token → Nat
  | [] => level
  | .mark .tag _ _ inner :: rest =>
    match tag? inner with
    | some (.whenSet _) => depth (level + 1) rest
    | some .endChoice => max level (depth (level - 1) rest)
    | _ => depth level rest
  | _ :: rest => depth level rest

/-- How deep choices may lie in each other to be run. -/
def depthLimit : Nat := 98

/-- How deep they may lie to be read. -/
def readingLimit : Nat := 238

/-- Drops one newline at the end. -/
def dropLastNewline (cs : List Char) : List Char :=
  match cs.reverse with
  | '\n' :: rest => rest.reverse
  | _ => cs

def parse (source : String) : Except Fault (List Part) := do
  let cs := dropLastNewline (Text.unifyNewlines source.toList)
  -- a template begins a line
  let some tokens := lex none [] ('\n' :: cs) | throw .malformed
  if readingLimit < depth 0 tokens then throw .bottomless
  let some parts := assemble [] [] (trim (List.take 1) tokens) | throw .malformed
  if depthLimit < depth 0 tokens then throw .deep
  pure (unify parts)

/-- Renders the templates of a directory, each in a file of its path. -/
def ofFiles (file : String → Option String) : Renderer := fun name context =>
  match (path? name).bind file with
  | none => .error .notFound
  | some source => do
    let parts ← parse source
    renderAll (context.within name) parts

end BuildScript.Template

import BuildScript.Text.Blank

/-! # Assignments in a settings line

A line such as `A=1 SECURE B='x y'` is read from left to right. Each assignment is an identifier,
an equals sign and a value in one of four forms; whatever stands between assignments is passed
over. Quotes stay in the value, which is shell text.
-/

namespace BuildScript.Environment

/-- A variable to be exported. -/
structure Variable where
  key : String
  value : String
  secure : Bool := false
  echo : Bool := true
deriving DecidableEq

def isKeyStart (c : Char) : Bool := c.isAlpha || c == '_'

def isKeyChar (c : Char) : Bool := c.isAlphanum || c == '_'

/-- An identifier and what follows it. -/
def key? : List Char → Option (List Char × List Char)
  | [] => none
  | c :: rest =>
    if isKeyStart c then some (c :: rest.takeWhile isKeyChar, rest.dropWhile isKeyChar) else none

/-- The mark of a value that was kept encrypted: the word itself and at least one blank. -/
def secureMark? : List Char → Option (List Char)
  | 'S' :: 'E' :: 'C' :: 'U' :: 'R' :: 'E' :: c :: rest =>
    if Text.isBlank c then some (rest.dropWhile Text.isBlank) else none
  | _ => none

/-- Characters in front of what was read. -/
def prepend (cs : List Char) (read : List Char × List Char) : List Char × List Char :=
  (cs ++ read.1, read.2)

/-- The rest of a double-quoted value, up to its closing quote. A backslash keeps the character
after it from closing the value, unless no quote would be left to close it. -/
def doubleQuoted : List Char → Option (List Char × List Char)
  | [] => none
  | '"' :: rest => some (['"'], rest)
  | '\\' :: c :: rest =>
    if c ≠ '\n' ∧ '"' ∈ rest then
      (doubleQuoted rest).map (prepend ['\\', c])
    else (doubleQuoted (c :: rest)).map (prepend ['\\'])
  | c :: rest => (doubleQuoted rest).map (prepend [c])

/-- Characters up to a closing one, which is included. -/
def closedBy (close : Char) : List Char → Option (List Char × List Char)
  | [] => none
  | c :: rest =>
    if c = close then some ([c], rest) else (closedBy close rest).map (prepend [c])

def isBareChar (c : Char) : Bool := !Text.isBlank c && c != '"' && c != '\''

def bare (cs : List Char) : List Char × List Char :=
  (cs.takeWhile isBareChar, cs.dropWhile isBareChar)

/-- A quoted value, a command substitution, or else a bare word. -/
def value (cs : List Char) : List Char × List Char :=
  let closed := match cs with
    | '"' :: rest => (doubleQuoted rest).map (prepend ['"'])
    | '\'' :: rest => (closedBy '\'' rest).map (prepend ['\''])
    | '$' :: '(' :: rest => (closedBy ')' rest).map (prepend ['$', '('])
    | _ => none
  closed.getD (bare cs)

/-- An assignment without a mark in front. -/
def plain? (secure : Bool) (cs : List Char) : Option (Variable × List Char) :=
  match key? cs with
  | some (key, '=' :: rest) =>
    let (v, rest) := value rest
    some ({ key := String.ofList key, value := String.ofList v, secure := secure }, rest)
  | _ => none

/-- An assignment that begins here, and what follows it. -/
def assignment? (secure : Bool) (cs : List Char) : Option (Variable × List Char) :=
  match (secureMark? cs).bind (plain? true) with
  | some found => some found
  | none => plain? secure cs

/-- Assignments of a line from the position that is `skip` characters further on. -/
def scan (secure : Bool) : Nat → List Char → List Variable
  | _, [] => []
  | skip + 1, _ :: rest => scan secure skip rest
  | 0, c :: rest =>
    match assignment? secure (c :: rest) with
    | some (v, after) => v :: scan secure (rest.length - after.length) rest
    | none => scan secure 0 rest

/-- All assignments of a line, in order; `secure` marks every one of them. -/
def parse (line : String) (secure : Bool := false) : List Variable :=
  scan secure 0 line.toList

end BuildScript.Environment

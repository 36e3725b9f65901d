import BuildScript.Text.Blank
import BuildScript.Text.Case
import BuildScript.Text.Identifier

/-! # Markup

Tags between square brackets, which set the style of a notice. A tag that closes needs an open one
of the same style, or any if it names none. An odd number of backslashes before the bracket takes
its meaning away.
-/

namespace BuildScript.Cli.Markup

/-! ## Styles -/

/-- The attributes of a style in the order in which they are written. -/
def attributes : List String := [
  "bold", "dim", "italic", "underline", "blink", "blink2", "reverse", "conceal", "strike",
  "underline2", "frame", "encircle", "overline"]

def shortNames : List (String × String) := [
  ("b", "bold"), ("d", "dim"), ("i", "italic"), ("u", "underline"), ("r", "reverse"),
  ("c", "conceal"), ("s", "strike"), ("uu", "underline2"), ("o", "overline")]

def attribute? (word : String) : Option String :=
  if attributes.contains word then some word else shortNames.lookup word

def colorNames : List String :=
  let names := ["black", "red", "green", "yellow", "blue", "magenta", "cyan", "white"]
  "default" :: names ++ names.map ("bright_" ++ ·)

def number (cs : List Char) : Nat := cs.foldl (fun n c => n * 10 + (c.toNat - 48)) 0

/-- Whether a word gives a number of at most 255 for each place. -/
def areLevels (places : Nat) (cs : List Char) : Bool :=
  let parts := cs.splitOn ','
  parts.length == places &&
    parts.all fun p => !p.isEmpty && p.all Char.isDigit && decide (number p ≤ 255)

/-- Whether a word, in small letters, is a color: a name, hexadecimal digits, or levels. -/
def isColor (word : String) : Bool :=
  let isHex (c : Char) : Bool := c.isDigit || ('a' ≤ c && c ≤ 'f')
  let cs := word.toList
  let inner (n : Nat) : List Char := (cs.drop n).dropLast
  colorNames.contains word ||
    (cs.head? == some '#' && cs.length == 7 && (cs.drop 1).all isHex) ||
    (cs.take 6 == "color(".toList && cs.getLast? == some ')' && cs.length ≤ 10 &&
      areLevels 1 (inner 6)) ||
    (cs.take 4 == "rgb(".toList && cs.getLast? == some ')' && areLevels 3 (inner 4))

structure Style where
  set : List (String × Bool) := []
  color : Option String := none
  background : Option String := none
  link : Option String := none

/-- Reads the words of a style. A later word goes before an earlier one. -/
def Style.ofWords? (style : Style) : List String → Option Style
  | [] => some style
  | word :: rest =>
    match Text.lower word, rest with
    | "on", color :: rest =>
      let color := Text.lower color
      if isColor color then ofWords? { style with background := some color } rest else none
    | "not", word :: rest =>
      match attribute? word with
      | some a => ofWords? { style with set := (a, false) :: style.set } rest
      | none => none
    | "link", target :: rest => ofWords? { style with link := some target } rest
    | word, rest =>
      match attribute? word with
      | some a => ofWords? { style with set := (a, true) :: style.set } rest
      | none => if isColor word then ofWords? { style with color := some word } rest else none

def Style.text (style : Style) : String :=
  let set := attributes.filterMap fun a =>
    (style.set.lookup a).map fun isOn => if isOn then a else "not " ++ a
  let words := set ++ style.color.toList ++
    (style.background.map ("on " ++ ·)).toList ++ (style.link.map ("link " ++ ·)).toList
  if words.isEmpty then "none" else " ".intercalate words

def trim (cs : List Char) : List Char :=
  ((cs.dropWhile Text.isBlank).reverse.dropWhile Text.isBlank).reverse

/-- One text for all names of a style. What names none stands for itself in small letters. -/
def styleText (name : List Char) : String :=
  let words := (name.splitOnP Text.isBlank).filter (· ≠ [])
  let known := if words == ["none".toList] then some {} else
    Style.ofWords? {} (words.map String.ofList)
  match known with
  | some style => style.text
  | none => Text.lower (String.ofList (trim name))

/-! ## Values of tags -/

/-- Whether a text is a number, a constant or a quoted text. -/
def isLiteral (cs : List Char) : Bool :=
  let digits := if cs.head? == some '-' then cs.drop 1 else cs
  let inner := (cs.drop 1).dropLast
  ["True", "False", "None"].contains (String.ofList cs) ||
    (!digits.isEmpty && digits.all Char.isDigit) ||
    (2 ≤ cs.length && cs.head? == cs.getLast? &&
      (cs.head? == some '\'' || cs.head? == some '"') &&
      inner.all fun c => c != '\\' && c != '\n' && some c != cs.head?)

/-- Whether the value of a tag can be read: a name, arguments in brackets, or both, or a literal. -/
def isValue (cs : List Char) : Bool :=
  let cs := trim cs
  let name := cs.takeWhile fun c => c == '.' || Text.continuesIdentifier c
  match cs.drop name.length with
  | [] => true
  | '(' :: rest =>
    let arguments := (rest.dropLast.splitOn ',').map trim
    rest.getLast? == some ')' && (arguments == [[]] ||
      ((if arguments.getLast? == some [] then arguments.dropLast else arguments).all isLiteral))
  | _ => isLiteral cs

/-! ## Tags -/

def startsTag (cs : List Char) : Bool :=
  cs.head?.any fun c => ('a' ≤ c && c ≤ 'z') || c == '#' || c == '/' || c == '@'

/-- What stands between the brackets of each tag. `slashes` counts the backslashes right before,
and `inside` holds whether the open bracket has lost its meaning, and what follows it, the last
character first. -/
def tags (slashes : Nat) (inside : Option (Bool × List Char)) : List Char → List (List Char)
  | [] => []
  | '[' :: rest => tags 0 (some (slashes % 2 == 1, [])) rest
  | ']' :: rest =>
    match inside with
    | some (false, read) =>
      (if startsTag read.reverse then [read.reverse] else []) ++ tags 0 none rest
    | _ => tags 0 none rest
  | c :: rest =>
    tags (if c = '\\' then slashes + 1 else 0) (inside.map fun i => (i.1, c :: i.2)) rest

/-- An open tag by its style, with its value if it has one. -/
structure Open where
  style : String
  value : List Char

/-- Whether a tag that opened can be closed: one whose name begins with an at sign has a value that
can be read. -/
def Open.closes (o : Open) : Bool :=
  !(o.style.toList.head? == some '@') || o.value.isEmpty || isValue o.value

/-- The open tags after one more tag, innermost first. -/
def step (before : List Open) (tag : List Char) : Option (List Open) :=
  let name := tag.takeWhile (· != '=')
  match name with
  | '/' :: rest =>
    let found := if (trim rest).isEmpty then before.head?
      else before.find? fun o => o.style == styleText (trim rest)
    match found with
    | some o => if o.closes then some (before.eraseP fun p => p.style == o.style) else none
    | none => none
  | name => some (⟨styleText name, (tag.drop name.length).drop 1⟩ :: before)

/-- Whether every tag that closes has an open one. -/
def isWellFormed (s : String) : Bool := ((tags 0 none s.toList).foldlM step []).isSome

end BuildScript.Cli.Markup

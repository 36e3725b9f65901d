/-! # Plain output

Output that does not go to a terminal has no control sequences of the common kind: an escape, a
bracket, digits with their marks, and a letter.
-/

namespace BuildScript.Cli

def isSequenceMark (c : Char) : Bool := c == ';' || c == '?' || c.isDigit

/-- Drops control sequences. `held` is the beginning of a possible one, last character first. -/
def dropSequences (held : List Char) : List Char → List Char
  | [] => held.reverse
  | c :: rest =>
    match held with
    | [] => if c = '\x1b' then dropSequences [c] rest else c :: dropSequences [] rest
    | [_] =>
      if c = '[' then dropSequences (c :: held) rest
      else if c = '\x1b' then '\x1b' :: dropSequences [c] rest
      else '\x1b' :: c :: dropSequences [] rest
    | held =>
      if c.isAlpha then dropSequences [] rest
      else if isSequenceMark c then dropSequences (c :: held) rest
      else if c = '\x1b' then held.reverse ++ dropSequences [c] rest
      else held.reverse ++ c :: dropSequences [] rest

def plain (s : String) : String := String.ofList (dropSequences [] s.toList)

end BuildScript.Cli

/-! # Indented documents

A record notation for dumps: nested records and lists on lines of their own, two blanks deeper at
each level, and texts between double quotes with the control characters escaped.
-/

namespace BuildScript.Shell

inductive Document
  | null
  | flag (b : Bool)
  | text (s : String)
  | list (items : List Document)
  | record (fields : List (String × Document))

namespace Document

def hexDigit (n : Nat) : Char := (Nat.toDigits 16 n).headD '0'

def escapeChar (c : Char) : List Char :=
  if c = '"' then ['\\', '"']
  else if c = '\\' then ['\\', '\\']
  else if c = '\x08' then ['\\', 'b']
  else if c = '\x0c' then ['\\', 'f']
  else if c = '\n' then ['\\', 'n']
  else if c = '\r' then ['\\', 'r']
  else if c = '\t' then ['\\', 't']
  else if c.toNat < 32 then
    ['\\', 'u', '0', '0', hexDigit (c.toNat / 16), hexDigit (c.toNat % 16)]
  else [c]

def quoted (s : String) : List Char := '"' :: s.toList.flatMap escapeChar ++ ['"']

def lineBreak (depth : Nat) : List Char := '\n' :: List.replicate (2 * depth) ' '

mutual

def chars (depth : Nat) : Document → List Char
  | .null => ['n', 'u', 'l', 'l']
  | .flag true => ['t', 'r', 'u', 'e']
  | .flag false => ['f', 'a', 'l', 's', 'e']
  | .text s => quoted s
  | .list [] => ['[', ']']
  | .list (item :: rest) =>
    '[' :: lineBreak (depth + 1) ++ item.chars (depth + 1) ++ moreItems (depth + 1) rest ++
      lineBreak depth ++ [']']
  | .record [] => ['{', '}']
  | .record ((name, value) :: rest) =>
    '{' :: lineBreak (depth + 1) ++ quoted name ++ [':', ' '] ++ value.chars (depth + 1) ++
      moreFields (depth + 1) rest ++ lineBreak depth ++ ['}']

def moreItems (depth : Nat) : List Document → List Char
  | [] => []
  | item :: rest => ',' :: lineBreak depth ++ item.chars depth ++ moreItems depth rest

def moreFields (depth : Nat) : List (String × Document) → List Char
  | [] => []
  | (name, value) :: rest =>
    ',' :: lineBreak depth ++ quoted name ++ [':', ' '] ++ value.chars depth ++
      moreFields depth rest

end

def render (d : Document) : String := String.ofList (d.chars 0)

end Document

end BuildScript.Shell

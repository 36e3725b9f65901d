import BuildScript.Text.Printable
import BuildScript.Text.Surrogate

/-! # Quoted literals

How a text is shown inside the text of a list or a mapping: between single quotes, or between
double quotes when only those avoid an escape, with the characters that cannot be shown escaped
by their code points.
-/

namespace BuildScript.Text

def hexDigits (width n : Nat) : List Char :=
  let ds := Nat.toDigits 16 n
  List.replicate (width - ds.length) '0' ++ ds

/-- A character by its code point. -/
def escapeCode (n : Nat) : List Char :=
  if n < 0x100 then '\\' :: 'x' :: hexDigits 2 n
  else if n < 0x10000 then '\\' :: 'u' :: hexDigits 4 n
  else '\\' :: 'U' :: hexDigits 8 n

def escapeChar (quote c : Char) : List Char :=
  if c = quote ∨ c = '\\' then ['\\', c]
  else if c = '\n' then ['\\', 'n']
  else if c = '\r' then ['\\', 'r']
  else if c = '\t' then ['\\', 't']
  else if isPrintable c then [c]
  else escapeCode c.toNat

/-- Double quotes are used when the text has a single quote and no double one. -/
def literalQuote (cs : List Char) : Char :=
  if '\'' ∈ cs ∧ '"' ∉ cs then '"' else '\''

/-- A character, or half of a surrogate pair, between quotes. -/
def escapeUnit (quote : Char) (unit : List Char) : List Char :=
  match surrogateCode? unit with
  | some code => escapeCode code
  | none => unit.flatMap (escapeChar quote)

def literal (s : String) : String :=
  let quote := literalQuote s.toList
  String.ofList (quote :: (units s.toList).flatMap (escapeUnit quote) ++ [quote])

/-- A text in which halves of surrogate pairs are escaped. -/
def escapeSurrogates (s : String) : String := replaceSurrogates escapeCode s

end BuildScript.Text

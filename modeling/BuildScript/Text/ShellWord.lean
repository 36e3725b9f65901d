/-! # Shell words

Quoting of a text as one word of a POSIX shell. A text of safe characters stands bare; any other
stands between single quotes, and each single quote in it leaves them for a double-quoted one.
-/

namespace BuildScript.Text

/-- Characters that a shell reads as themselves wherever they stand in a word. -/
def isShellSafe (c : Char) : Bool := c.isAlphanum || "_@%+=:,./-".toList.contains c

/-- A single quote inside single quotes: close, quote it between double quotes, open again. -/
def shellEscape (c : Char) : List Char :=
  if c = '\'' then ['\'', '"', '\'', '"', '\''] else [c]

def shellQuoteChars (cs : List Char) : List Char :=
  if cs = [] then ['\'', '\'']
  else if cs.all isShellSafe then cs
  else '\'' :: cs.flatMap shellEscape ++ ['\'']

/-- The text as one shell word. -/
def shellQuote (s : String) : String := String.ofList (shellQuoteChars s.toList)

end BuildScript.Text

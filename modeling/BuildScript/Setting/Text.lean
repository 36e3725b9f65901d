import BuildScript.Number.Decimal
import BuildScript.Setting.Basic
import BuildScript.Text.Literal

/-! # Text of settings

How a setting is written into a script. A text is written as it stands; inside a list or a
mapping it is shown as a quoted literal. Settings that a build has sealed against changes are
written with round brackets for lists, and mappings inside them say that they are read-only.
-/

namespace BuildScript

/-- Integers in decimal. One with more than `writtenDigits` digits cannot be written, so that a build
stops there: `Setting.isShort` tells which settings are free of them. -/
def decimal (n : Int) : String :=
  if n < 0 then "-" ++ String.ofList (Nat.toDigits 10 n.natAbs)
  else String.ofList (Nat.toDigits 10 n.natAbs)

def digitCount (n : Int) : Nat := (Nat.toDigits 10 n.natAbs).length

/-- The most digits of an integer that can be written. -/
def writtenDigits : Nat := 4300

namespace Scalar

def isShort : Scalar → Bool
  | .int n => digitCount n ≤ writtenDigits
  | .null | .bool _ | .float _ | .text _ => true

def shown : Scalar → String
  | .null => "None"
  | .bool b => if b then "True" else "False"
  | .int n => decimal n
  | .float x => x.text
  | .text s => Text.literal s

def written : Scalar → String
  | .text s => s
  | s => s.shown

end Scalar

namespace Setting

/-- Whether a setting can still be changed, or a build has sealed it. -/
inductive Form
  | loose
  | sealed
deriving DecidableEq

def Form.listText : Form → List String → String
  | .loose, items => "[" ++ ", ".intercalate items ++ "]"
  | .sealed, [item] => "(" ++ item ++ ",)"
  | .sealed, items => "(" ++ ", ".intercalate items ++ ")"

def braces (entries : List String) : String := "\x7b" ++ ", ".intercalate entries ++ "\x7d"

def Form.innerMappingText : Form → String → String
  | .loose, body => body
  | .sealed, body => "mappingproxy(" ++ body ++ ")"

mutual

/-- The text of a setting inside another one. -/
def shown (form : Form) : Setting → String
  | .scalar s => s.shown
  | .list items => form.listText (shownItems form items)
  | .mapping entries => form.innerMappingText (braces (shownEntries form entries))

def shownItems (form : Form) : List Setting → List String
  | [] => []
  | item :: rest => shown form item :: shownItems form rest

def shownEntries (form : Form) : List (Scalar × Setting) → List String
  | [] => []
  | (key, value) :: rest => (key.shown ++ ": " ++ shown form value) :: shownEntries form rest

end

mutual

/-- Whether every integer in a setting can be written. -/
def isShort : Setting → Bool
  | .scalar s => s.isShort
  | .list items => areShort items
  | .mapping entries => areShortEntries entries

def areShort : List Setting → Bool
  | [] => true
  | item :: rest => item.isShort && areShort rest

def areShortEntries : List (Scalar × Setting) → Bool
  | [] => true
  | (key, value) :: rest => key.isShort && value.isShort && areShortEntries rest

end

/-- The text of a setting that stands by itself. -/
def written (form : Form) : Setting → String
  | .scalar s => s.written
  | .mapping entries => braces (shownEntries form entries)
  | .list items => form.listText (shownItems form items)

end Setting

end BuildScript

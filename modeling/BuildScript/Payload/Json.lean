import BuildScript.Payload.Basic
import BuildScript.Setting.Text

/-! # Payloads in JSON

What is left of a payload that went through JSON. A key becomes a text, of entries with one text
the later counts, and a number that is not finite becomes null. A text with half of a surrogate
pair cannot be written, nor can values that lie too deep in each other; an integer with too many
digits can be written but not read back.
-/

namespace BuildScript

namespace Setting

/-- The text of a key. -/
def jsonKey : Scalar → String
  | .text s => s
  | .bool b => if b then "true" else "false"
  | .float x => if x.isNaN || x.isInfinite then "None" else x.text
  | s => s.shown

def jsonScalar : Scalar → Scalar
  | .float x => if x.isNaN || x.isInfinite then .null else .float x
  | s => s

/-- Why a setting does not come back from JSON. -/
inductive JsonFault
  | unwritable
  | longInteger (digits : Nat)
deriving DecidableEq

/-- How many values may lie in each other below an entry of a payload. -/
def jsonDepth : Nat := 254

/-- The most digits of an integer that is read. -/
def jsonDigits : Nat := 4300

def isWritableKey : Scalar → Bool
  | .text s => !Text.hasSurrogate s
  | key => key.isShort

mutual

/-- Whether a setting can be written where so many values may still lie in each other. -/
def isWritable (room : Nat) : Setting → Bool
  | .scalar (.text s) => room != 0 && !Text.hasSurrogate s
  | .scalar _ => room != 0
  | .list items => room != 0 && areWritable (room - 1) items
  | .mapping es => room != 0 && areWritableEntries (room - 1) es

def areWritable (room : Nat) : List Setting → Bool
  | [] => true
  | item :: rest => isWritable room item && areWritable room rest

def areWritableEntries (room : Nat) : List (Scalar × Setting) → Bool
  | [] => true
  | (key, value) :: rest =>
    isWritableKey key && isWritable room value && areWritableEntries room rest

end

mutual

/-- What comes back of a setting that is written. -/
def throughJson : Setting → Setting
  | .scalar s => .scalar (jsonScalar s)
  | .list items => .list (itemsThroughJson items)
  | .mapping es => .mapping (entriesThroughJson [] es)

def itemsThroughJson : List Setting → List Setting
  | [] => []
  | item :: rest => throughJson item :: itemsThroughJson rest

def entriesThroughJson (found : Entries) : List (Scalar × Setting) → Entries
  | [] => found
  | (key, value) :: rest =>
    entriesThroughJson (Entries.put found (.text (jsonKey key)) (throughJson value)) rest

end

mutual

/-- The integers of a setting in the order in which they are read. -/
def integers : Setting → List Int
  | .scalar (.int n) => [n]
  | .scalar _ => []
  | .list items => integersOf items
  | .mapping es => integersOfEntries es

def integersOf : List Setting → List Int
  | [] => []
  | item :: rest => integers item ++ integersOf rest

def integersOfEntries : List (Scalar × Setting) → List Int
  | [] => []
  | (_, value) :: rest => integers value ++ integersOfEntries rest

end

/-- The setting of a whole payload that went through JSON. -/
def json (s : Setting) : Except JsonFault Setting :=
  if !isWritable (jsonDepth + 2) s then .error .unwritable
  else
    match (integers s).map digitCount |>.find? fun n => decide (jsonDigits < n) with
    | some n => .error (.longInteger n)
    | none => .ok (throughJson s)

end Setting

end BuildScript

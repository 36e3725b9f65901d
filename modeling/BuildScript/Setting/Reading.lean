import BuildScript.Setting.Text

/-! # Reading settings

Reads that depend on the shape of a setting, and the misuse that each reports when the shape does
not allow it.
-/

namespace BuildScript

namespace Setting

/-- Why a setting could not be read in the way a stage reads it. -/
inductive Misuse
  /-- An entry was asked of a setting that is no mapping. -/
  | notMapping
  /-- A key was looked up in a setting that has no keys. -/
  | notKeyed
  /-- A key that has to be there is not. -/
  | missingKey
  /-- The members were asked of a setting that has none. -/
  | notIterable
  /-- A member that is no text was to be joined into one. -/
  | notText
deriving DecidableEq

/-- Entries of a setting that has to be a mapping. -/
def entries : Setting → Except Misuse Entries
  | .mapping es => .ok es
  | _ => .error .notMapping

/-- The setting under a name, null when there is none. -/
def get (s : Setting) (name : String) : Except Misuse Setting :=
  match s with
  | .mapping es => .ok (Entries.get es name)
  | _ => .error .notMapping

/-- The setting under a name that has to be there. -/
def required (s : Setting) (name : String) : Except Misuse Setting :=
  match s with
  | .mapping es =>
    match Entries.get? es (.text name) with
    | some v => .ok v
    | none => .error .missingKey
  | _ => .error .notKeyed

/-- Members: the items of a list, the keys of a mapping, the characters of a text. -/
def members : Setting → Except Misuse (List Setting)
  | .list items => .ok items
  | .mapping es => .ok (es.map fun e => .scalar e.1)
  | .text s => .ok ((Text.units s.toList).map fun u => .text (String.ofList u))
  | .scalar _ => .error .notIterable

/-- Members of a setting that may be left out. -/
def optionalMembers (s : Setting) : Except Misuse (List Setting) :=
  if s.isSet then s.members else .ok []

/-- Texts of a setting that is one text or a list of them; null is none. -/
def texts (form : Form) : Setting → Except Misuse (List String)
  | .null => .ok []
  | .text s => .ok [s]
  | s => s.members.map fun ms => ms.map (written form)

/-- As `texts`, but any setting that is not set is none; the empty text remains one text. -/
def optionalTexts (form : Form) : Setting → Except Misuse (List String)
  | .text s => .ok [s]
  | s => s.optionalMembers.map fun ms => ms.map (written form)

@[simp] theorem get_mapping (es : Entries) (name : String) :
    (Setting.mapping es).get name = .ok (Entries.get es name) := rfl

end Setting

end BuildScript

import BuildScript.Setting.Text

/-! # Settings as they are held

Each list and each mapping of a setting is held either loose, so that it can still be changed, or
sealed. Entries can be merged whatever way they are held; nothing of what comes out is sealed, and
nothing of what went in has been changed.
-/

namespace BuildScript

/-- A setting with the form of each list and of each mapping in it. -/
inductive Held
  | scalar (s : Scalar)
  | list (form : Setting.Form) (items : List Held)
  | mapping (form : Setting.Form) (entries : List (Scalar × Held))

/-- Entries of a held mapping, in writing order. -/
abbrev HeldEntries := List (Scalar × Held)

namespace Held

mutual

/-- What is held, whatever the way. -/
def content : Held → Setting
  | .scalar s => .scalar s
  | .list _ items => .list (itemContents items)
  | .mapping _ entries => .mapping (contents entries)

def itemContents : List Held → List Setting
  | [] => []
  | item :: rest => content item :: itemContents rest

def contents : List (Scalar × Held) → Entries
  | [] => []
  | (key, value) :: rest => (key, content value) :: contents rest

end

mutual

/-- A copy in which every list and every mapping has one form: sealed against changes, or loose
again. -/
def copied (form : Setting.Form) : Held → Held
  | .scalar s => .scalar s
  | .list _ items => .list form (copiedItems form items)
  | .mapping _ entries => .mapping form (copiedEntries form entries)

def copiedItems (form : Setting.Form) : List Held → List Held
  | [] => []
  | item :: rest => copied form item :: copiedItems form rest

def copiedEntries (form : Setting.Form) : List (Scalar × Held) → HeldEntries
  | [] => []
  | (key, value) :: rest => (key, copied form value) :: copiedEntries form rest

end

def get? (entries : HeldEntries) (key : Scalar) : Option Held :=
  (entries.find? fun e => e.1.sameKey key).map Prod.snd

/-- Replaces what is held under a key in its place, or adds the entry at the end. -/
def put : HeldEntries → Scalar → Held → HeldEntries
  | [], key, value => [(key, value)]
  | (k, v) :: rest, key, value =>
    if k.sameKey key then (k, value) :: rest else (k, v) :: put rest key value

mutual

/-- What comes to stand where a value is merged onto `base`: two mappings are merged in turn, and
any other value is copied. -/
def merged (base : Option Held) : Held → Held
  | .scalar s => .scalar s
  | .list _ items => .list .loose (copiedItems .loose items)
  | .mapping _ entries =>
    match base with
    | some (.mapping _ below) => .mapping .loose (mergedOnto (copiedEntries .loose below) entries)
    | _ => .mapping .loose (copiedEntries .loose entries)

def mergedOnto (result : HeldEntries) : List (Scalar × Held) → HeldEntries
  | [] => result
  | (key, value) :: rest => mergedOnto (put result key (merged (get? result key) value)) rest

end

/-- Entries merged over a copy of others. -/
def merge (base entries : HeldEntries) : HeldEntries :=
  mergedOnto (copiedEntries .loose base) entries

end Held

end BuildScript

import BuildScript.Number.Binary64

/-! # Settings

The values that a build spec may hold: scalars, lists, and mappings whose entries keep the order
in which they were written. Any scalar can be a key; keys that are equal as numbers are one key.
-/

namespace BuildScript

inductive Scalar
  | null
  | bool (b : Bool)
  | int (n : Int)
  | float (x : Binary64)
  | text (s : String)
deriving DecidableEq

namespace Scalar

/-- The integer that a truth value, an integer or an integral double equals. -/
def toInt? : Scalar → Option Int
  | .bool b => some (if b then 1 else 0)
  | .int n => some n
  | .float x => x.toInt?
  | .null | .text _ => none

/-- Whether two scalars name the same entry of a mapping. A NaN names a new one each time. -/
def sameKey (a b : Scalar) : Bool :=
  match a, b with
  | .float x, .float y =>
    !x.isNaN && (decide (x = y) || (x.toInt?.isSome && decide (x.toInt? = y.toInt?)))
  | .null, .null => true
  | .text s, .text t => s == t
  | .null, _ | _, .null | .text _, _ | _, .text _ => false
  | a, b => a.toInt?.isSome && decide (a.toInt? = b.toInt?)

/-- False for null, false, zeros and the empty text. -/
def isSet : Scalar → Bool
  | .null => false
  | .bool b => b
  | .int n => n != 0
  | .float x => !x.isZero
  | .text s => s != ""

end Scalar

inductive Setting
  | scalar (s : Scalar)
  | list (items : List Setting)
  | mapping (entries : List (Scalar × Setting))

/-- Entries of a mapping, in writing order. -/
abbrev Entries := List (Scalar × Setting)

namespace Setting

@[match_pattern] abbrev null : Setting := .scalar .null
@[match_pattern] abbrev bool (b : Bool) : Setting := .scalar (.bool b)
@[match_pattern] abbrev int (n : Int) : Setting := .scalar (.int n)
@[match_pattern] abbrev float (x : Binary64) : Setting := .scalar (.float x)
@[match_pattern] abbrev text (s : String) : Setting := .scalar (.text s)

instance : Inhabited Setting := ⟨.null⟩

/-- A setting counts as given unless it is null, false, zero or empty. -/
def isSet : Setting → Bool
  | .scalar s => s.isSet
  | .list items => !items.isEmpty
  | .mapping entries => !entries.isEmpty

def isMapping : Setting → Bool
  | .mapping _ => true
  | _ => false

end Setting

namespace Entries

def get? (entries : Entries) (key : Scalar) : Option Setting :=
  (entries.find? fun e => e.1.sameKey key).map Prod.snd

/-- The setting under a name, null when there is none. -/
def get (entries : Entries) (name : String) : Setting :=
  (get? entries (.text name)).getD .null

def contains (entries : Entries) (name : String) : Bool :=
  (get? entries (.text name)).isSome

/-- Replaces the setting under a key in its place, or adds the entry at the end. -/
def put : Entries → Scalar → Setting → Entries
  | [], key, value => [(key, value)]
  | (k, v) :: rest, key, value =>
    if k.sameKey key then (k, value) :: rest else (k, v) :: put rest key value

/-- Entries without those under a name. -/
def erase (entries : Entries) (name : String) : Entries :=
  entries.filter fun e => !e.1.sameKey (.text name)

/-- Entries put one after another: of two with one key the later setting counts, in the place of
the earlier. -/
def ofList (pairs : List (Scalar × Setting)) : Entries :=
  pairs.foldl (fun entries e => put entries e.1 e.2) []

end Entries

end BuildScript

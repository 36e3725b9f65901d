import BuildScript.Proofs.Setting.AtPath
import BuildScript.Proofs.Setting.Given
import BuildScript.Resolution

/-! # Settings placed and left out

A setting is placed at a path of names: the mappings on the way are kept but for the one entry that
leads on, and what is no mapping gives place to one. So only what stands under the first name of
the path changes, as it does when nothing is left under that name.
-/

namespace BuildScript

namespace Entries

def inner (es : Entries) (name : String) : Entries :=
  match get es name with
  | .mapping below => below
  | _ => []

theorem distinct_inner {es : Entries} (h : (Setting.mapping es).Keyed) (name : String) :
    (inner es name).Distinct := by
  unfold inner get
  cases hf : get? es (.text name) with
  | none => exact .nil
  | some found =>
    have child : found.Keyed := h.child hf
    cases child with
    | scalar | list => exact .nil
    | mapping hd => exact hd

/-- Entries with a setting at a path of names. -/
def place : Entries → List String → Setting → Entries
  | es, [], _ => es
  | es, [name], s => put es (.text name) s
  | es, name :: next :: path, s =>
    put es (.text name) (.mapping (place (inner es name) (next :: path) s))

variable {es : Entries} {name : String} {path : List String} {s : Setting}

theorem put_self (h : get? es (.text name) = some s) : put es (.text name) s = es := by
  induction es with
  | nil => cases h
  | cons e rest ih =>
    rw [get?_cons] at h
    unfold put
    split at h
    · next hk =>
      cases h
      rw [if_pos hk]
    · next hk => rw [if_neg hk, ih h]

theorem place_self (h : (Setting.mapping es).at? (path.map Scalar.text) = some s) :
    place es path s = es := by
  fun_induction place es path s with
  | case1 => rfl
  | case2 es name s =>
    obtain ⟨t, ht, hs⟩ := Option.bind_eq_some_iff.mp h
    cases hs
    exact put_self ht
  | case3 es name next path s ih =>
    obtain ⟨t, ht, hs⟩ := Option.bind_eq_some_iff.mp h
    have found : get? es (.text name) = some t := ht
    cases t with
    | scalar | list => cases hs
    | mapping below =>
      have hi : inner es name = below := by rw [inner, get, found]; rfl
      rw [hi] at ih ⊢
      rw [ih hs]
      exact put_self found

def placed (es : Entries) (name : String) : List String → Setting → Setting
  | [], s => s
  | next :: path, s => .mapping (place (inner es name) (next :: path) s)

theorem place_cons (es : Entries) (name : String) (path : List String) (s : Setting) :
    place es (name :: path) s = put es (.text name) (placed es name path s) := by
  cases path <;> rfl

theorem given_place_of_ne {other : String} (hn : name ≠ other) (es : Entries) (path : List String)
    (s : Setting) : given (place es (other :: path) s) name = given es name := by
  rw [place_cons, given_put_of_ne hn]

theorem get?_place_self (es : Entries) (name : String) (path : List String) (s : Setting) :
    get? (place es (name :: path) s) (.text name) = some (placed es name path s) := by
  rw [place_cons, get?_put_text_self]

theorem Distinct.place (h : es.Distinct) (path : List String) (s : Setting) :
    (Entries.place es path s).Distinct := by
  cases path with
  | nil => exact h
  | cons name path =>
    rw [place_cons]
    exact h.put _ _

theorem Distinct.erase (h : es.Distinct) (name : String) : (Entries.erase es name).Distinct :=
  h.filter _

end Entries

namespace Payload

/-- The payload with a setting of its spec at a path of names. -/
def place (p : Payload) (path : List String) (s : Setting) : Payload :=
  { p with config := Entries.place p.config path s }

def without (p : Payload) (name : String) : Payload :=
  { p with config := Entries.erase p.config name }

variable (p : Payload) {name other : String}

theorem place_self {path : List String} {s : Setting}
    (h : (Setting.mapping p.config).at? (path.map Scalar.text) = some s) : p.place path s = p := by
  rw [place, Entries.place_self h]

theorem given_place (hn : name ≠ other) (path : List String) (s : Setting) :
    Entries.given (p.place (other :: path) s).config name = Entries.given p.config name :=
  Entries.given_place_of_ne hn p.config path s

theorem get_place (hn : name ≠ other) (path : List String) (s : Setting) :
    Entries.get (p.place (other :: path) s).config name = Entries.get p.config name :=
  Entries.get_eq_of_given (p.given_place hn path s)

theorem ofConfig_place (hn : resultKey ≠ other) (path : List String) (s : Setting) :
    Status.ofConfig (p.place (other :: path) s).config = Status.ofConfig p.config := by
  rw [Status.ofConfig, Status.ofConfig, p.get_place hn]

theorem given_without (hn : name ≠ other) :
    Entries.given (p.without other).config name = Entries.given p.config name :=
  Entries.given_erase_of_ne hn p.config

theorem get_without (hn : name ≠ other) :
    Entries.get (p.without other).config name = Entries.get p.config name :=
  Entries.get_eq_of_given (p.given_without hn)

theorem ofConfig_without (hn : resultKey ≠ other) :
    Status.ofConfig (p.without other).config = Status.ofConfig p.config := by
  rw [Status.ofConfig, Status.ofConfig, p.get_without hn]

end Payload

end BuildScript

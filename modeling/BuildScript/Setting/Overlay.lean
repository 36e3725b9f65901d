import BuildScript.Setting.Basic

/-! # Overlaying settings

Defaults under a user's settings. Mappings that meet under one key are overlaid in turn; any
other setting of the user replaces the default, lists included.
-/

namespace BuildScript

namespace Setting

mutual

/-- The setting that stands where another is written over `base`. -/
def overlaid (base : Option Setting) : Setting → Setting
  | .mapping entries =>
    match base with
    | some (.mapping below) => .mapping (overlay below entries)
    | _ => .mapping entries
  | .list items => .list items
  | .scalar s => .scalar s

/-- The entries of `base` in their order, then the new ones of the second argument. -/
def overlay (base : Entries) : List (Scalar × Setting) → Entries
  | [] => base
  | (key, value) :: rest =>
    overlay (Entries.put base key (overlaid (Entries.get? base key) value)) rest

end

end Setting

end BuildScript

import BuildScript.Setting.Reading

/-! # Shapes of settings

Which settings can be read in which way: a read of a setting is a misuse just if the setting has not
the shape that the read asks for.
-/

namespace BuildScript.Setting

variable {α β : Type}

theorem isOk_iff {r : Except Misuse α} : r.isOk = true ↔ ∃ a, r = .ok a := by
  cases r with
  | error m => exact ⟨nofun, nofun⟩
  | ok a => exact ⟨fun _ => ⟨a, rfl⟩, fun _ => rfl⟩

theorem isOk_map (f : α → β) (r : Except Misuse α) : (r.map f).isOk = r.isOk := by
  cases r <;> rfl

def hasMembers : Setting → Bool
  | .text _ | .list _ | .mapping _ => true
  | .scalar _ => false

def isTexts : Setting → Bool
  | .null => true
  | s => s.hasMembers

def isOptional (s : Setting) : Bool := !s.isSet || s.hasMembers

def isOptionalMapping (s : Setting) : Bool := !s.isSet || s.isMapping

def isText : Setting → Bool
  | .text _ => true
  | _ => false

/-- A text, a list of texts, or a mapping whose keys are texts. -/
def isTextual : Setting → Bool
  | .text _ => true
  | .list items => items.all isText
  | .mapping es => es.all fun e => (Setting.scalar e.1).isText
  | .scalar _ => false

theorem isOptionalMapping_of {s : Setting} (h : s.isSet = true → s.isMapping = true) :
    s.isOptionalMapping = true := by
  unfold isOptionalMapping
  cases hs : s.isSet with
  | false => rfl
  | true => rw [h hs]; rfl

variable (form : Form) (s : Setting)

theorem isOk_members : s.members.isOk = s.hasMembers := by
  cases s with
  | scalar value => cases value <;> rfl
  | list | mapping => rfl

theorem isOk_optionalMembers : s.optionalMembers.isOk = s.isOptional := by
  unfold optionalMembers isOptional
  split
  · next hs => rw [isOk_members, hs, Bool.not_true, Bool.false_or]
  · next hs => rw [Bool.eq_false_iff.mpr hs]; rfl

theorem isOk_texts : (s.texts form).isOk = s.isTexts := by
  have members := (isOk_map (List.map (written form)) s.members).trans (isOk_members s)
  cases s with
  | scalar value =>
    cases value with
    | null | text => rfl
    | bool | int | float => exact members
  | list | mapping => exact members

theorem isOk_optionalTexts : (s.optionalTexts form).isOk = s.isOptional := by
  have members :=
    (isOk_map (List.map (written form)) s.optionalMembers).trans (isOk_optionalMembers s)
  cases s with
  | scalar value =>
    cases value with
    | text t => exact (Bool.or_true _).symm
    | null | bool | int | float => exact members
  | list | mapping => exact members

theorem isOk_optionalEntries :
    (if s.isSet then s.entries else .ok []).isOk = s.isOptionalMapping := by
  unfold isOptionalMapping
  split
  · next hs =>
    rw [hs]
    cases s <;> rfl
  · next hs => rw [Bool.eq_false_iff.mpr hs]; rfl

variable {s} {ms : List Setting}

theorem members_ne_nil (h : s.members = .ok ms) : ms ≠ [] ↔ s.isSet = true := by
  cases s with
  | scalar value =>
    cases value with
    | text t =>
      cases h
      have hu : Text.units t.toList = [] ↔ t = "" := by
        rw [← String.toList_eq_nil_iff]
        constructor
        · intro he
          rw [← Text.units_flatten t.toList, he, List.flatten_nil]
        · intro he
          rw [he]
          rfl
      simp [isSet, Scalar.isSet, hu]
    | null | bool | int | float => cases h
  | list items =>
    cases h
    simp [isSet]
  | mapping es =>
    cases h
    simp [isSet]

theorem isTextual_iff : s.isTextual = true ↔ ∃ ms, s.members = .ok ms ∧ ms.all isText = true := by
  cases s with
  | scalar value =>
    cases value with
    | text t => exact ⟨fun _ => ⟨_, rfl, by simp [isText]⟩, fun _ => rfl⟩
    | null | bool | int | float => exact ⟨nofun, nofun⟩
  | list items => simp [isTextual, members]
  | mapping es =>
    have keys : (es.map fun e => scalar e.1).all isText = es.all fun e => (scalar e.1).isText :=
      List.all_map
    rw [isTextual, ← keys]
    exact ⟨fun h => ⟨_, rfl, h⟩, fun ⟨_, hm, h⟩ => Except.ok.inj hm ▸ h⟩

end BuildScript.Setting

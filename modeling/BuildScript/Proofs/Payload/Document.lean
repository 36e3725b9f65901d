import BuildScript.Resolution

/-! # Payloads from documents

The document of a spec file is resolved like the same value at hand, but for those that do not count
as given: they stand for an empty mapping, whatever their kind. So an empty list or a zero is a payload
in a file and is none at hand. This holds for any loader, and for values of any kinds that it may
return: settings are only some of them.
-/

namespace BuildScript

namespace Setting

/-- Null, false, zeros, the empty text and the empty list: what does not count as given and is no
mapping. -/
def IsVoid (v : Setting) : Prop :=
  v = .null ∨ v = .bool false ∨ v = .int 0 ∨ (∃ x, v = .float x ∧ x.isZero = true) ∨
    v = .text "" ∨ v = .list []

theorem isVoid_iff {v : Setting} : v.IsVoid ↔ v.isSet = false ∧ v.isMapping = false := by
  cases v with
  | scalar s => cases s <;> simp [IsVoid, isSet, Scalar.isSet, isMapping]
  | list items => simp [IsVoid, isSet, isMapping]
  | mapping es => simp [IsVoid, isMapping]

end Setting

namespace Resolution

namespace Values

variable {α ε ρ : Type} {values : Values α ε ρ} {v : α} {load : String → Except Yaml.Fault α}
  {text : String}

/-- A value does not count as given and is no mapping. -/
def IsVoid (values : Values α ε ρ) (v : α) : Prop :=
  values.isSet v = false ∧ (values.entries? v).isSome = false

theorem atHand_eq_error (h : (values.entries? v).isSome = false) :
    values.atHand v = .error .notMapping := by
  rw [atHand]
  cases he : values.entries? v with
  | none => rfl
  | some es =>
    rw [he] at h
    cases h

theorem atHand_empty : values.atHand values.empty = .ok values.blank := by
  have blank := values.map_ofEntries_empty
  rw [atHand]
  cases he : values.entries? values.empty with
  | none =>
    rw [he] at blank
    cases blank
  | some es =>
    rw [he] at blank
    exact Option.some.inj blank

theorem inFile_of_not_isSet (h : values.isSet v = false) : values.inFile v = .ok values.blank := by
  rw [inFile, h]
  exact atHand_empty

theorem inFile_of_not_isVoid (h : ¬values.IsVoid v) : values.inFile v = values.atHand v := by
  rw [inFile]
  cases set : values.isSet v with
  | true => rfl
  | false =>
    have mapping : (values.entries? v).isSome = true :=
      (Bool.eq_false_or_eq_true _).resolve_right fun kind => h ⟨set, kind⟩
    change values.atHand values.empty = _
    rw [atHand, atHand, values.entries?_eq_of_not_isSet set mapping]

theorem inFile_eq_atHand_iff : values.inFile v = values.atHand v ↔ ¬values.IsVoid v := by
  refine ⟨fun same void => ?_, inFile_of_not_isVoid⟩
  rw [inFile_of_not_isSet void.1, atHand_eq_error void.2] at same
  cases same

theorem ofText_of_load (h : load text = .ok v) :
    values.ofText load text = (values.inFile v).mapError .invalid := by
  rw [ofText, h]

end Values

theorem isVoid_settings_iff {s : Setting} : settings.IsVoid s ↔ s.IsVoid := by
  rw [Setting.isVoid_iff]
  cases s <;> rfl

theorem invalid_injective {ρ : Type} {x y : Except Payload.Invalid ρ}
    (h : x.mapError Fault.invalid = y.mapError Fault.invalid) : x = y := by
  cases x <;> cases y <;> cases h <;> rfl

/-- Whatever a loader returns for a file is resolved as it is at hand, to the same payload or the same
fault, just if it is not void. A void value is an empty payload in a file and none at hand; any other
value that is no mapping is rejected on both routes. Among settings, six kinds are void. -/
theorem document_read_as_setting_iff {α ε ρ : Type} (values : Values α ε ρ)
    (load : String → Except Yaml.Fault α) (text : String) (v : α) (h : load text = .ok v) :
    (values.ofText load text = (values.atHand v).mapError .invalid ↔ ¬values.IsVoid v) ∧
    (values.IsVoid v → values.ofText load text = .ok values.blank ∧
      values.atHand v = .error .notMapping) ∧
    ((values.entries? v).isSome = false → values.isSet v = true →
      values.ofText load text = .error (.invalid .notMapping) ∧
        values.atHand v = .error .notMapping) ∧
    ∀ s : Setting, settings.IsVoid s ↔ s.IsVoid := by
  rw [Values.ofText_of_load h]
  refine ⟨⟨fun same => ?agree, fun filled => ?filled⟩, fun void => ?void, fun kind set => ?other,
    fun s => isVoid_settings_iff⟩
  case agree => exact Values.inFile_eq_atHand_iff.mp (invalid_injective same)
  case filled => rw [Values.inFile_of_not_isVoid filled]
  case void =>
    rw [Values.inFile_of_not_isSet void.1]
    exact ⟨rfl, Values.atHand_eq_error void.2⟩
  case other =>
    have filled : ¬values.IsVoid v := fun void => Bool.false_ne_true (void.1.symm.trans set)
    rw [Values.inFile_of_not_isVoid filled, Values.atHand_eq_error kind]
    exact ⟨rfl, rfl⟩

/-- What a loader with further kinds returns: a setting, or bytes, a set or a date, of which only the
truth value is looked at. -/
inductive Loaded
  | setting (s : Setting)
  | foreign (isSet : Bool)

def Loaded.values : Values Loaded Entries (Resolution × Journal) where
  isSet
    | .setting s => s.isSet
    | .foreign isSet => isSet
  entries?
    | .setting s => settings.entries? s
    | .foreign _ => none
  empty := .setting settings.empty
  ofEntries := settings.ofEntries
  blank := settings.blank
  entries?_eq_of_not_isSet {v} hs hm := by
    cases v with
    | setting s => exact settings.entries?_eq_of_not_isSet hs hm
    | foreign => cases hm
  map_ofEntries_empty := settings.map_ofEntries_empty

def loadSet (text : String) : Except Yaml.Fault Loaded :=
  .ok (.foreign (text != "!!set \x7b\x7d"))

/-- A set with members is rejected on both routes, and one without members at hand only. -/
theorem document_read_as_setting_iff_sets :
    Loaded.values.ofText loadSet "!!set \x7ba\x7d" = .error (.invalid .notMapping) ∧
      Loaded.values.atHand (.foreign true) = .error .notMapping ∧
      Loaded.values.ofText loadSet "!!set \x7b\x7d" = .ok (⟨{}, .configured⟩, []) ∧
      Loaded.values.atHand (.foreign false) = .error .notMapping := by
  have filled : loadSet "!!set \x7ba\x7d" = .ok (.foreign true) := rfl
  have empty : loadSet "!!set \x7b\x7d" = .ok (.foreign false) := rfl
  obtain ⟨-, -, other, -⟩ := document_read_as_setting_iff Loaded.values _ _ _ filled
  obtain ⟨-, void, -, -⟩ := document_read_as_setting_iff Loaded.values _ _ _ empty
  exact ⟨(other rfl rfl).1, (other rfl rfl).2, (void ⟨rfl, rfl⟩).1, (void ⟨rfl, rfl⟩).2⟩

/-- An empty list in a file is an empty payload, though it is no mapping. -/
theorem empty_list_resolved :
    Yaml.document "[]" = .ok (.list []) ∧ ofText "[]" = .ok (⟨{}, .configured⟩, []) ∧
      ofSetting (.list []) = .error .notMapping := by
  have document : Yaml.document "[]" = .ok (.list []) := by rfl
  refine ⟨document, ?_, rfl⟩
  rw [ofText, Values.ofText_of_load document]
  rfl

end Resolution

end BuildScript

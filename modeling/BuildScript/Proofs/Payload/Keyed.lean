import BuildScript.Payload.Json
import BuildScript.Proofs.Payload.Document
import BuildScript.Proofs.Payload.Normal
import BuildScript.Proofs.Setting.AtPath

/-! # Payloads that are loaded

Mappings are built by putting their entries one after another, in a document and in what comes back
from JSON, and validation only takes them out. So in a payload that has been loaded no key stands twice
in a mapping, nor in the spec once the defaults of a profile stand below it.
-/

namespace BuildScript

namespace Yaml.Node

mutual

theorem keyed_value (n : Node) : n.value.Keyed := by
  cases n with
  | scalar => exact .scalar _
  | list => exact .list _
  | mapping es => exact keyed_valuesOfEntries .empty es

theorem keyed_valuesOfEntries {found : Entries} (h : (Setting.mapping found).Keyed)
    (es : List (Node × Node)) : (Setting.mapping (valuesOfEntries found es)).Keyed := by
  cases es with
  | nil => exact h
  | cons e rest =>
    obtain ⟨key, item⟩ := e
    exact keyed_valuesOfEntries (h.put (asKey key) (keyed_value item)) rest

end

theorem keyed_setting {n : Node} {s : Setting} (h : n.setting = .ok s) : s.Keyed := by
  unfold setting at h
  split at h
  · cases h
  · cases h
    exact keyed_value n

end Yaml.Node

theorem Yaml.keyed_document {text : String} {s : Setting} (h : document text = .ok s) :
    s.Keyed := by
  unfold document at h
  dsimp only at h
  split at h
  · cases h
  · cases hn : Node.ofTokens (tokens (Text.unifyNewlines text.toList)) with
    | error f =>
      rw [hn] at h
      cases h
    | ok n =>
      rw [hn] at h
      exact Node.keyed_setting h

namespace Setting

mutual

theorem keyed_throughJson (s : Setting) : s.throughJson.Keyed := by
  cases s with
  | scalar => exact .scalar _
  | list => exact .list _
  | mapping es => exact keyed_entriesThroughJson .empty es

theorem keyed_entriesThroughJson {found : Entries} (h : (mapping found).Keyed)
    (es : List (Scalar × Setting)) : (mapping (entriesThroughJson found es)).Keyed := by
  cases es with
  | nil => exact h
  | cons e rest =>
    obtain ⟨key, value⟩ := e
    exact keyed_entriesThroughJson (h.put (.text (jsonKey key)) (keyed_throughJson value)) rest

end

theorem keyed_json {s t : Setting} (h : s.json = .ok t) : t.Keyed := by
  unfold json at h
  split at h
  · cases h
  · split at h
    · cases h
    · cases h
      exact keyed_throughJson s

end Setting

namespace Payload

/-- No key stands twice in the mappings of a payload. -/
structure Keyed (p : Payload) : Prop where
  config : (Setting.mapping p.config).Keyed
  cacheOptions : (Setting.mapping p.cacheOptions).Keyed
  repository : (Setting.mapping p.repository).Keyed
  job : (Setting.mapping p.job).Keyed

open Validation

theorem keyed_entries {s : Setting} (h : s.Keyed) (place : List Place) :
    (Setting.mapping (entries place s).value).Keyed := by
  cases s with
  | scalar | list => exact .empty
  | mapping es => exact h

theorem keyed_optionalField {es : Entries} (h : (Setting.mapping es).Keyed) (name : String) :
    (Setting.mapping (optionalField es name [] entries).value).Keyed := by
  unfold optionalField
  split
  · next v hv => exact keyed_entries (h.child hv) _
  · exact .empty

theorem keyed_check {es : Entries} (h : (Setting.mapping es).Keyed) : (check es).value.Keyed where
  config := keyed_optionalField h "config"
  cacheOptions := keyed_optionalField h "cache_options"
  repository := keyed_optionalField h "repository"
  job := keyed_optionalField h "job"

theorem keyed_of_ok {es : Entries} {p : Payload} (h : (Setting.mapping es).Keyed)
    (hp : ofEntries es = .ok p) : p.Keyed := by
  obtain ⟨full, given | bare, -, rfl⟩ := exists_check_of_ok hp
  · exact given ▸ keyed_check h
  · exact bare ▸ keyed_check (.single _ h)

end Payload

namespace Profile

theorem keyed_ownDefaults (p : Profile) : (Setting.mapping p.ownDefaults).Keyed := by
  cases p with
  | c | cpp => exact Setting.Keyed.empty.put _ (.scalar _)
  | android =>
    have lists := (Setting.Keyed.empty.put (.text "components") (.list [])).put (.text "licenses")
      (.list [])
    exact Setting.Keyed.empty.put (.text "android") lists
  | base | generic | haskell | java => exact .empty

theorem keyed_defaults (p : Profile) : (Setting.mapping p.defaults).Keyed := by
  have git := ((Setting.Keyed.empty.put (.text "depth") (.scalar (.int 50))).put (.text "submodules")
    (.scalar (.bool true))).put (.text "strategy") (.scalar (.text "clone"))
  have checkout : (Setting.mapping Capability.checkoutDefaults).Keyed :=
    Setting.Keyed.empty.put (.text "git") git
  have below : ∀ b ∈ some (Setting.mapping Capability.checkoutDefaults), b.Keyed := by
    rintro _ ⟨rfl⟩
    exact checkout
  exact p.keyed_ownDefaults.overlaid below

theorem keyed_mergedConfig (p : Profile) {config : Entries} (h : (Setting.mapping config).Keyed) :
    (p.mergedConfig config).Keyed := by
  have below : ∀ b ∈ some (Setting.mapping p.defaults), b.Keyed := by
    rintro _ ⟨rfl⟩
    exact p.keyed_defaults
  exact h.overlaid below

end Profile

namespace Resolution

theorem keyed_ofSetting {s : Setting} {r : Resolution} {journal : Journal} (hs : s.Keyed)
    (h : ofSetting s = .ok (r, journal)) : r.payload.Keyed := by
  cases s with
  | scalar | list => cases h
  | mapping es =>
    change (Payload.ofEntries es).map ofPayload = .ok (r, journal) at h
    cases hp : Payload.ofEntries es with
    | error e =>
      rw [hp] at h
      cases h
    | ok p =>
      rw [hp] at h
      cases h
      exact Payload.keyed_of_ok hs hp

/-- Whatever a spec file holds, its payload is keyed, and so is the spec that the stages of a profile
see. What is assumed of the mappings of a payload elsewhere holds of it. -/
theorem keyed_ofText {text : String} {r : Resolution} {journal : Journal}
    (h : ofText text = .ok (r, journal)) :
    r.payload.Keyed ∧ ∀ p : Profile, (p.mergedConfig r.payload.config).Keyed := by
  have keyed : r.payload.Keyed := by
    cases hd : Yaml.document text with
    | error f =>
      rw [ofText, Values.ofText, hd] at h
      cases h
    | ok s =>
      rw [ofText, Values.ofText_of_load hd] at h
      have found : ofSetting (if s.isSet then s else .mapping []) = .ok (r, journal) :=
        invalid_injective h
      refine keyed_ofSetting ?_ found
      split
      · exact Yaml.keyed_document hd
      · exact .empty
  exact ⟨keyed, fun p => p.keyed_mergedConfig keyed.config⟩

end Resolution

end BuildScript

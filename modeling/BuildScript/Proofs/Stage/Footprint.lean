import BuildScript.Proofs.Setting.Placing
import BuildScript.Proofs.Stage.Aspects

/-! # The settings that a profile reads

A profile reads a build only at the names that all stages share and at those of its own toolchain.
Builds that agree there, and in everything outside the spec, are composed by the same action.
-/

namespace BuildScript

open Capability

def sharedKeys : List String := textKeys ++ ["cache", "addons", "env", "git"]

namespace Profile

def ownKeys : Profile → List String
  | .c | .cpp => ["compiler"]
  | .haskell => ["ghc"]
  | .java => ["jdk"]
  | .android => ["jdk", "android"]
  | .base | .generic => []

/-- Two builds hold the same where a profile reads them, but for the services that they start. A
paranoid build does not read its addons. -/
structure Near (p : Profile) (b c : Build) : Prop where
  setting {name : String} (h : name ∈ sharedKeys ++ p.ownKeys) (hs : name ≠ "services")
    (ha : name = "addons" → b.payload.paranoid = false) : b.setting name = c.setting name
  required {name : String} (h : name ∈ p.ownKeys) :
    b.config.required name = c.config.required name
  payload : b.payload.withoutSpec = c.payload.withoutSpec
  cacheOptions : b.cacheOptions = c.cacheOptions

/-- Two builds hold the same where a profile reads them. -/
structure Agree (p : Profile) (b c : Build) : Prop extends Near p b c where
  services : b.setting "services" = c.setting "services"

theorem ne_of_mem_ownKeys {p : Profile} {name : String} (hn : name ∈ p.ownKeys) :
    name ≠ "services" ∧ name ≠ "addons" := by
  have h : ∀ name ∈ p.ownKeys, name ≠ "services" ∧ name ≠ "addons" := by cases p <;> decide
  exact h name hn

section Keys

/-! The names under which a profile reads its aspects -/

variable {p : Profile}

theorem key_mem_of_mem_aspects : ∀ a ∈ p.aspects, a.key ∈ sharedKeys ++ p.ownKeys := by
  cases p <;> decide +kernel

theorem key_mem_of_isRequired : ∀ a ∈ p.aspects, a.isRequired = true → a.key ∈ p.ownKeys := by
  cases p <;> decide +kernel

theorem eq_texts_of_key : ∀ a ∈ p.aspects, a.key ∈ textKeys → a = .texts a.key := by
  cases p <;> decide +kernel

theorem eq_addons_of_key : ∀ a ∈ p.aspects, a.key = "addons" → a = .addons := by
  cases p <;> decide +kernel

theorem eq_environment_of_key : ∀ a ∈ p.aspects, a.key = "env" → a = .environment := by
  cases p <;> decide +kernel

end Keys

section Same

variable {p : Profile} {b c : Build}

theorem Near.outside (h : p.Near b c) : b.SameOutside c := ⟨h.payload, h.cacheOptions⟩

theorem Near.addons (h : p.Near b c) : Aspect.addons.Same b c := by
  intro hook
  have paranoid : b.payload.paranoid = c.payload.paranoid := (congrArg Payload.paranoid h.payload :)
  cases hp : b.payload.paranoid with
  | true => rw [runAddons_of_paranoid hp, runAddons_of_paranoid (paranoid ▸ hp)]
  | false =>
    exact runAddons_congr paranoid (h.setting (by cases p <;> decide) (by decide) fun _ => hp) hook

theorem Near.same (h : p.Near b c) {a : Aspect} (ha : a ∈ p.aspects)
    (hs : a ≠ .texts "services") : a.Same b c := by
  have services : a.key ≠ "services" := fun hk =>
    hs (hk ▸ eq_texts_of_key a ha (by rw [hk]; decide))
  by_cases he : a.key = "addons"
  · rw [eq_addons_of_key a ha he]
    exact h.addons
  · exact Aspect.same_of_setting h.outside
      (h.setting (key_mem_of_mem_aspects a ha) services fun hk => absurd hk he) fun hr =>
        h.required (key_mem_of_isRequired a ha hr)

theorem Agree.same (h : p.Agree b c) {a : Aspect} (ha : a ∈ p.aspects) : a.Same b c := by
  by_cases hs : a = .texts "services"
  · rw [hs]
    exact Build.textsOf_congr h.services
  · exact h.toNear.same ha hs

end Same

def merged (p : Profile) (r : Resolution) : Entries := Setting.overlay p.defaults r.payload.config

theorem setting_eq (p : Profile) (r : Resolution) (co : Option Entries) (name : String) :
    (Compiler.buildFor p r co).setting name = .ok (Entries.get (p.merged r) name) := rfl

theorem required_eq {p : Profile} {name : String} {below : Setting}
    (hb : Entries.get? p.defaults (.text name) = some below) (r : Resolution)
    (co : Option Entries) :
    (Compiler.buildFor p r co).config.required name = .ok (Entries.get (p.merged r) name) := by
  obtain ⟨s, hs⟩ := Entries.exists_get?_overlay hb r.payload.config
  rw [Compiler.buildFor, mergedConfig, Setting.required, merged, Entries.get, hs]
  rfl

/-- Where a path leads past no default, the build holds what is placed there. -/
theorem setting_place {p : Profile} {name : String}
    (hn : Entries.get? p.defaults (.text name) = none) {payload : Payload}
    (hd : payload.config.Distinct) (path : List String) (s : Setting) (status : Status)
    (co : Option Entries) :
    (Compiler.buildFor p ⟨payload.place (name :: path) s, status⟩ co).setting name =
      .ok (Entries.placed payload.config name path s) := by
  have distinct := hd.place (name :: path) s
  have held := distinct.get?_overlay hn
  rw [Entries.get?_place_self] at held
  rw [setting_eq, Entries.get]
  exact congrArg (fun found => Except.ok (found.getD .null)) held

section Given

variable {p : Profile} {r s : Resolution} {name : String}

theorem get?_merged_congr
    (hg : Entries.given r.payload.config name = Entries.given s.payload.config name) :
    Entries.get? (p.merged r) (.text name) = Entries.get? (p.merged s) (.text name) := by
  rw [merged, merged, Entries.get?_overlay, Entries.get?_overlay, hg]

theorem merged_congr
    (hg : Entries.given r.payload.config name = Entries.given s.payload.config name) :
    Entries.get (p.merged r) name = Entries.get (p.merged s) name := by
  rw [Entries.get, Entries.get, get?_merged_congr hg]

theorem setting_of_given {co : Option Entries}
    (hg : Entries.given r.payload.config name = Entries.given s.payload.config name) :
    (Compiler.buildFor p r co).setting name = (Compiler.buildFor p s co).setting name := by
  rw [setting_eq, setting_eq, merged_congr hg]

theorem required_of_given {co : Option Entries}
    (hg : Entries.given r.payload.config name = Entries.given s.payload.config name) :
    (Compiler.buildFor p r co).config.required name =
      (Compiler.buildFor p s co).config.required name := by
  have held := get?_merged_congr (p := p) hg
  rw [merged, merged] at held
  simp only [Compiler.buildFor, mergedConfig, Setting.required, held]

variable (hp : r.payload.withoutSpec = s.payload.withoutSpec) (co : Option Entries)
include hp

theorem sameOutside_of_payload :
    (Compiler.buildFor p r co).SameOutside (Compiler.buildFor p s co) :=
  ⟨hp, congrArg co.getD (congrArg Payload.cacheOptions hp :)⟩

theorem same_of_given {a : Aspect}
    (hg : Entries.given r.payload.config a.key = Entries.given s.payload.config a.key) :
    a.Same (Compiler.buildFor p r co) (Compiler.buildFor p s co) :=
  Aspect.same_of_setting (sameOutside_of_payload hp co) (setting_of_given hg) fun _ =>
    required_of_given hg

/-- Of payloads that are the same but for the spec, only what is given at the names that a profile
reads counts for its builds. -/
theorem near_of_given
    (hg : ∀ name ∈ sharedKeys ++ p.ownKeys, name ≠ "services" →
      (name = "addons" → r.payload.paranoid = false) →
      Entries.given r.payload.config name = Entries.given s.payload.config name) :
    p.Near (Compiler.buildFor p r co) (Compiler.buildFor p s co) where
  setting hn hs ha := setting_of_given (hg _ hn hs ha)
  required {name} hn := by
    have hd := ne_of_mem_ownKeys hn
    exact required_of_given (hg name (List.mem_append_right _ hn) hd.1 fun he => absurd he hd.2)
  payload := hp
  cacheOptions := (sameOutside_of_payload (p := p) hp co).cacheOptions

theorem agree_of_given
    (hg : ∀ name ∈ sharedKeys ++ p.ownKeys,
      Entries.given r.payload.config name = Entries.given s.payload.config name) :
    p.Agree (Compiler.buildFor p r co) (Compiler.buildFor p s co) where
  toNear := near_of_given hp co fun name hn _ _ => hg name hn
  services := setting_of_given (hg "services" (by cases p <;> decide))

end Given

end Profile

end BuildScript

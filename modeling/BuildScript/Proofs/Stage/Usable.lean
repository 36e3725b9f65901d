import BuildScript.Proofs.Setting.Shape
import BuildScript.Proofs.Stage.Footprint

/-! # Usable specs

The values in a spec are not checked before the stages read them. A spec is usable by a profile when
each setting that the profile reads has the shape that the read asks for, and then it has a build.
-/

namespace BuildScript

open Shell Drafting Capability

namespace Capability.Addon

theorem mem_all (a : Addon) : a ∈ all := by cases a <;> decide

theorem ofName?_name (a : Addon) : ofName? a.name = some a := by cases a <;> decide

end Capability.Addon

namespace Setting

def isCache : Setting → Bool
  | .mapping es => (Entries.get es "directories").isOptional
  | _ => true

/-- An entry of the addons can be read, or no addon has its name. -/
def isAddon (e : Scalar × Setting) : Bool :=
  e.2.isOptional || Addon.all.all fun a => e.1 ≠ .text a.name

/-- A mapping in which the known addons can be read, or a setting that is not set. -/
def isAddons : Setting → Bool
  | .mapping es => es.all isAddon
  | s => !s.isSet

/-- A mapping with components, and with licenses that are texts if there are any components. -/
def isAndroid : Setting → Bool
  | .mapping es =>
    (Entries.get es "components").hasMembers &&
      (!(Entries.get es "components").isSet || (Entries.get es "licenses").isTextual)
  | _ => false

theorem isAddon_iff {e : Scalar × Setting} :
    isAddon e = true ↔ ∀ a : Addon, e.1 = .text a.name → e.2.isOptional = true := by
  simp only [isAddon, Bool.or_eq_true, List.all_eq_true, decide_eq_true_eq]
  constructor
  · rintro (ho | hn) a ha
    · exact ho
    · exact absurd ha (hn a a.mem_all)
  · intro ha
    by_cases ho : e.2.isOptional = true
    · exact .inl ho
    · exact .inr fun a _ hn => ho (ha a hn)

end Setting

/-! ## Reads and shapes -/

namespace Build

variable {b : Build} {name : String} {s : Setting}

theorem isOk_textsOf (h : b.setting name = .ok s) : (b.textsOf name).isOk = s.isTexts := by
  rw [textsOf, h]
  exact s.isOk_texts .sealed

theorem isOk_entriesOf (h : b.setting name = .ok s) :
    (b.entriesOf name).isOk = s.isOptionalMapping := by
  rw [entriesOf_eq h, s.isOk_optionalEntries]

theorem isOk_cacheDirectories (h : b.setting "cache" = .ok s) :
    b.cacheDirectories.isOk = s.isCache := by
  rw [cacheDirectories, h]
  cases s with
  | scalar | list => rfl
  | mapping es =>
    rw [Setting.isCache, ← Setting.isOk_optionalMembers]
    exact Setting.isOk_map _ _

theorem isAddons_iff (h : b.setting "addons" = .ok s) :
    s.isAddons = true ↔ ∃ es, b.entriesOf "addons" = .ok es ∧ ∀ e ∈ es, ∀ a : Addon,
      e.1 = .text a.name → (e.2.optionalTexts .sealed).isOk = true := by
  rw [entriesOf_eq h]
  cases s with
  | mapping es =>
    have entries : (if (Setting.mapping es).isSet then (Setting.mapping es).entries else .ok []) =
        .ok es := by
      cases es <;> rfl
    simp only [Setting.isAddons, List.all_eq_true, Setting.isAddon_iff, Setting.isOk_optionalTexts,
      entries, Except.ok.injEq, exists_eq_left']
  | scalar | list =>
    simp only [Setting.isAddons, Bool.not_eq_true']
    split
    · next hs => exact ⟨fun hn => absurd hs (Bool.eq_false_iff.mp hn), nofun⟩
    · next hs => exact ⟨fun _ => ⟨[], rfl, nofun⟩, fun _ => Bool.eq_false_iff.mpr hs⟩

end Build

/-- Every integer that a build may write is short. -/
def Payload.IsShort (p : Payload) (co : Option Entries) : Prop :=
  ∀ es ∈ [p.config, co.getD p.cacheOptions, p.repository, p.job],
    (Setting.mapping es).isShort = true

instance (p : Payload) (co : Option Entries) : Decidable (p.IsShort co) :=
  inferInstanceAs (Decidable (∀ es ∈ _, _))

namespace Profile

variable {b : Build} {s : Setting}

theorem isOk_licensePattern (licenses : List Setting) :
    (licensePattern licenses).isOk = licenses.all Setting.isText := by
  refine (Setting.isOk_map (fun texts => "|".intercalate texts) _).trans ?_
  induction licenses with
  | nil => rfl
  | cons first rest ih =>
    cases first with
    | scalar value =>
      cases value with
      | text t =>
        rw [List.mapM_cons, List.all_cons, ← ih]
        exact Setting.isOk_map (List.cons t) _
      | null | bool | int | float => rfl
    | list | mapping => rfl

theorem isOk_componentCommand (component : Setting) (licenses : List Setting) :
    (componentCommand component licenses).isOk = licenses.all Setting.isText := by
  rw [componentCommand, ← isOk_licensePattern]
  cases licenses with
  | nil => rfl
  | cons first rest => exact Setting.isOk_map _ _

theorem androidList_eq_ok_iff {es : Entries} (h : b.config.required "android" = .ok (.mapping es))
    {name : String} {members : List Setting} :
    androidList b name = .ok members ↔ (Entries.get es name).members = .ok members := by
  rw [androidList, h]
  change ((Setting.mapping es).required name >>= Setting.members) = _ ↔ _
  rw [Setting.required, Entries.get]
  cases Entries.get? es (.text name) with
  | none =>
    constructor
    · intro h
      cases h
    · intro h
      cases h
  | some s => exact Iff.rfl

theorem isAndroid_iff (h : b.config.required "android" = .ok s) :
    s.isAndroid = true ↔ ∃ components, androidList b "components" = .ok components ∧
      (components ≠ [] → ∃ licenses, androidList b "licenses" = .ok licenses ∧
        licenses.all Setting.isText = true) := by
  cases s with
  | mapping es =>
    simp only [androidList_eq_ok_iff h, ← Setting.isTextual_iff, Setting.isAndroid,
      Bool.and_eq_true, Bool.or_eq_true, Bool.not_eq_true', ← Setting.isOk_members, Setting.isOk_iff]
    rw [exists_and_right.symm]
    refine exists_congr fun components => and_congr_right fun hm => ?_
    rw [Setting.members_ne_nil hm]
    cases (Entries.get es "components").isSet <;> simp
  | scalar | list =>
    rw [androidList, h]
    constructor
    · intro h
      cases h
    · rintro ⟨_, h, -⟩
      cases h

/-- Each setting that a profile reads has the shape that the read asks for. Without a repository the
settings of the checkout are not read, and a paranoid build does not read its addons. -/
structure Usable (p : Profile) (r : Resolution) : Prop where
  texts : ∀ name ∈ textKeys, (Entries.get (p.merged r) name).isTexts = true
  cache : (Entries.get (p.merged r) "cache").isCache = true
  git : (Entries.get r.payload.repository "slug").isSet = true →
    (Entries.get (p.merged r) "git").isOptionalMapping = true
  addons : r.payload.paranoid = false → (Entries.get (p.merged r) "addons").isAddons = true
  android : p = .android → (Entries.get (p.merged r) "android").isAndroid = true

variable {p : Profile} {r : Resolution} {F : Draft.Fault → Prop}

instance : Decidable (p.Usable r) :=
  decidable_of_iff (_ ∧ _ ∧ _ ∧ _ ∧ _)
    ⟨fun ⟨ht, hc, hg, ha, hd⟩ => ⟨ht, hc, hg, ha, hd⟩,
      fun h => ⟨h.texts, h.cache, h.git, h.addons, h.android⟩⟩

namespace Usable

variable (h : p.Usable r) (co : Option Entries)
include h

theorem readable_shared : (Compiler.buildFor p r co).Readable F where
  setting _ := .ok _
  texts hn := .of_isOk ((Build.isOk_textsOf (setting_eq p r co _)).trans (h.texts _ hn))
  caches kind := .of_ok (setting_eq p r co "cache") (by split <;> exact .ok _)
  directories := .of_isOk ((Build.isOk_cacheDirectories (setting_eq p r co _)).trans h.cache)
  git hs := .of_isOk ((Build.isOk_entriesOf (setting_eq p r co _)).trans (h.git hs))
  addons hp := by
    obtain ⟨es, he, -⟩ := (Build.isAddons_iff (setting_eq p r co _)).mp (h.addons hp)
    rw [he]
    exact .ok es
  addon hp es he e hm a hn := by
    obtain ⟨es', he', ha⟩ := (Build.isAddons_iff (setting_eq p r co _)).mp (h.addons hp)
    cases he.symm.trans he'
    exact .of_isOk (ha e hm a hn)

theorem readable_own : p.OwnReadable F (Compiler.buildFor p r co) := by
  cases p with
  | base | generic | haskell | java => trivial
  | c | cpp => exact .of_ok (required_eq rfl r co) (.ok _)
  | android =>
    obtain ⟨components, hc, ha⟩ := (isAndroid_iff (required_eq rfl r co)).mp (h.android rfl)
    constructor
    case components =>
      rw [hc]
      exact .ok components
    case licenses =>
      intro components' hc' hn
      cases hc.symm.trans hc'
      obtain ⟨licenses, hl, -⟩ := ha hn
      rw [hl]
      exact .ok licenses
    case command =>
      intro components' licenses' hc' component hm hl'
      cases hc.symm.trans hc'
      obtain ⟨licenses, hl, ht⟩ := ha (List.ne_nil_of_mem hm)
      cases hl.symm.trans hl'
      exact .of_isOk ((isOk_componentCommand component _).trans ht)

theorem readable : p.Readable F (Compiler.buildFor p r co) :=
  ⟨h.readable_shared co, h.readable_own co⟩

end Usable

end Profile

namespace Compiler

/-- A usable spec has a build. -/
theorem build_of_usable {p : Profile} {r : Resolution}
    (hl : Registry.standard.get (Entries.get r.payload.config "language") = .ok p)
    (hu : p.Usable r) (co : Option Entries) : ∃ c, (build r co).1 = .ok c := by
  have := hu.readable (F := NoFault) co
  have ho := compose_outcome (F := NoFault) p (buildFor p r co) r.status
    [.compiling p.name r.status]
  cases hc : (composed p r co).1 with
  | ok s => exact ⟨_, build_of_composed hl hc⟩
  | error f =>
    have hf := hc ▸ ho
    cases hf with
    | failed hf => exact hf.elim

end Compiler

end BuildScript

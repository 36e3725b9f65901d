import BuildScript.Proofs.Stage.Completed
import BuildScript.Proofs.Stage.Result
import BuildScript.Proofs.Stage.Usable

/-! # Documented shapes

A build spec whose settings have the documented shapes is compiled, whatever else it holds. Only a
few settings have a shape at all, and the defaults of a profile see to the keys that it looks up.
-/

namespace BuildScript

open Shell Drafting Capability

namespace Profile

theorem get?_defaults_of_ne (p : Profile) {name : String} (hg : name ≠ "git")
    (hc : name ≠ "compiler") (ha : name ≠ "android") :
    Entries.get? p.defaults (.text name) = none := by
  have h (key : String) (s : Setting) (es : Entries) (hn : name ≠ key) :
      Entries.get? ((.text key, s) :: es) (.text name) = Entries.get? es (.text name) :=
    Entries.get?_text_cons_of_ne fun he => hn (Scalar.text.inj he).symm
  cases p with
  | base | generic | haskell | java => exact h "git" _ [] hg
  | c | cpp => exact (h "git" _ _ hg).trans (h "compiler" _ [] hc)
  | android => exact (h "git" _ _ hg).trans (h "android" _ [] ha)

/-- Among the Android settings components are a text or a list, and licenses a text or a list of
texts. -/
structure AndroidShape (es : Entries) : Prop where
  distinct : es.Distinct
  components {s : Setting} (h : Entries.get? es (.text "components") = some s) :
    (∃ t, s = .text t) ∨ ∃ items, s = .list items
  licenses {s : Setting} (h : Entries.get? es (.text "licenses") = some s) :
    (∃ t, s = .text t) ∨ ∃ texts : List String, s = .list (texts.map .text)

/-- The settings of a build spec have the documented shapes. No two of its entries share a key, as
in all entries that are put one after another. -/
structure Documented (p : Profile) (es : Entries) : Prop where
  distinct : es.Distinct
  texts {name : String} (h : name ∈ textKeys) : (Entries.get es name).isTexts = true
  cache {inner : Entries} (h : Entries.get es "cache" = .mapping inner) :
    (Entries.get inner "directories").isOptional = true
  git (h : (Entries.get es "git").isSet = true) : (Entries.get es "git").isMapping = true
  addons (h : (Entries.get es "addons").isSet = true) : (Entries.get es "addons").isMapping = true
  addon {inner : Entries} (h : Entries.get es "addons" = .mapping inner) {e : Scalar × Setting}
    (he : e ∈ inner) {a : Addon} (hn : e.1 = .text a.name) : e.2.isOptional = true
  android (hp : p = .android) {s : Setting} (h : Entries.get? es (.text "android") = some s) :
    ∃ inner, s = .mapping inner ∧ AndroidShape inner

def androidBelow : Entries := [(.text "components", .list []), (.text "licenses", .list [])]

theorem AndroidShape.get_overlay {es : Entries} (h : AndroidShape es) {name : String}
    (hn : name ∈ ["components", "licenses"]) :
    Entries.get (Setting.overlay androidBelow es) name =
      (Entries.get? es (.text name)).getD (.list []) := by
  have hb : Entries.get? androidBelow (.text name) = some (.list []) := by
    obtain rfl | rfl : name = "components" ∨ name = "licenses" := by simpa using hn
    all_goals rfl
  rw [Entries.get, h.distinct.get?_overlay_eq, hb]
  cases Entries.get? es (.text name) with
  | none => rfl
  | some s => cases s <;> rfl

theorem AndroidShape.isAndroid {es : Entries} (h : AndroidShape es) :
    (Setting.mapping (Setting.overlay androidBelow es)).isAndroid = true := by
  have components : ((Entries.get? es (.text "components")).getD (.list [])).hasMembers = true := by
    cases hg : Entries.get? es (.text "components") with
    | none => rfl
    | some s => rcases h.components hg with ⟨t, rfl⟩ | ⟨items, rfl⟩ <;> rfl
  have licenses : ((Entries.get? es (.text "licenses")).getD (.list [])).isTextual = true := by
    cases hg : Entries.get? es (.text "licenses") with
    | none => rfl
    | some s =>
      rcases h.licenses hg with ⟨t, rfl⟩ | ⟨texts, rfl⟩
      · rfl
      · simp [Setting.isTextual, Setting.isText]
  rw [Setting.isAndroid, h.get_overlay (by decide), h.get_overlay (by decide), components, licenses,
    Bool.or_true, Bool.true_and]

namespace Documented

variable {p : Profile} {r : Resolution} (h : p.Documented r.payload.config)
include h

theorem get_merged {name : String} (hg : name ≠ "git") (hc : name ≠ "compiler")
    (ha : name ≠ "android") :
    Entries.get (p.merged r) name = Entries.get r.payload.config name := by
  have hn := h.distinct.get?_overlay (p.get?_defaults_of_ne hg hc ha)
  rw [merged, Entries.get, hn, Entries.get]

theorem isOptionalMapping_git : (Entries.get (p.merged r) "git").isOptionalMapping = true := by
  have hd : Entries.get? p.defaults (.text "git") =
      Entries.get? checkoutDefaults (.text "git") := by
    cases p <;> rfl
  have hs := h.git
  rw [merged, Entries.get, h.distinct.get?_overlay_eq, hd]
  rw [Entries.get] at hs
  cases hg : Entries.get? r.payload.config (.text "git") with
  | none => rfl
  | some s =>
    rw [hg] at hs
    cases s with
    | mapping es => exact Bool.or_true _
    | scalar | list => exact Setting.isOptionalMapping_of hs

theorem isAddons : (Entries.get (p.merged r) "addons").isAddons = true := by
  rw [h.get_merged (by decide) (by decide) (by decide)]
  have hs := h.addons
  cases hg : Entries.get r.payload.config "addons" with
  | mapping es =>
    exact List.all_eq_true.mpr fun e he => Setting.isAddon_iff.mpr fun a hn => h.addon hg he hn
  | scalar | list =>
    rw [hg] at hs
    simp only [Setting.isAddons, Bool.not_eq_true']
    exact Bool.eq_false_iff.mpr fun hn => Bool.false_ne_true (hs hn)

theorem isAndroid (hp : p = .android) : (Entries.get (p.merged r) "android").isAndroid = true := by
  subst hp
  have hd : Entries.get? Profile.android.defaults (.text "android") =
      some (.mapping androidBelow) := rfl
  rw [merged, Entries.get, h.distinct.get?_overlay_eq, hd]
  cases hg : Entries.get? r.payload.config (.text "android") with
  | none => rfl
  | some s =>
    obtain ⟨es, rfl, he⟩ := h.android rfl hg
    exact he.isAndroid

/-- A spec with the documented shapes is usable. -/
theorem usable : p.Usable r where
  texts name hn := by
    have ne (other : String) (ho : other ∉ textKeys) : name ≠ other := fun he => ho (he ▸ hn)
    rw [h.get_merged (ne _ (by decide)) (ne _ (by decide)) (ne _ (by decide))]
    exact h.texts hn
  cache := by
    rw [h.get_merged (by decide) (by decide) (by decide)]
    cases hg : Entries.get r.payload.config "cache" with
    | mapping es => exact h.cache hg
    | scalar | list => rfl
  git _ := h.isOptionalMapping_git
  addons _ := h.isAddons
  android hp := h.isAndroid hp

end Documented

end Profile

namespace Compiler

variable {p : Profile} {r : Resolution}

theorem buildPayload_of_usable {payload : Payload}
    (hl : Registry.standard.get (Entries.get payload.config "language") = .ok p)
    (hu : p.Usable (Resolution.ofPayload payload).1) (co : Option Entries) :
    ∃ c, (buildPayload payload co).1 = .ok c := by
  rw [buildPayload_fst]
  exact build_of_usable (r := (Resolution.ofPayload payload).1) hl hu co

theorem exists_text_of_usable {payload : Payload}
    (hl : Registry.standard.get (Entries.get payload.config "language") = .ok p)
    (hu : p.Usable (Resolution.ofPayload payload).1) (co : Option Entries) :
    ∃ text, ∀ options : Options, options.logTree = false →
      (compilePayload payload options co Template.packaged).1 = .ok text := by
  obtain ⟨c, hc⟩ := buildPayload_of_usable hl hu co
  exact ⟨packagedText c, fun options quiet => compilePayload_of_quiet hc quiet⟩

/-- A build spec with the documented shapes is compiled, and what the profiles look up is there. The
one fault left is that of a tree which is to be noted and holds half of a surrogate pair. Integers
are taken to be short enough to be written. -/
theorem documented_shapes_compile {payload : Payload}
    (hl : Registry.standard.get (Entries.get payload.config "language") = .ok p)
    (hd : p.Documented payload.config) (options : Options) (co : Option Entries) :
    (payload.IsShort co → ∃ c, (buildPayload payload co).1 = .ok c ∧
      (Unencodable options c → (compilePayload payload options co Template.packaged).1 =
        .error (.draft .unencodable)) ∧
      (¬Unencodable options c →
        ∃ text, (compilePayload payload options co Template.packaged).1 = .ok text)) ∧
      (p = .c ∨ p = .cpp →
        ∃ name, Profile.compiler (buildFor p (Resolution.ofPayload payload).1 co) = .ok name) ∧
      (p = .android → ∃ components,
        Profile.androidList (buildFor p (Resolution.ofPayload payload).1 co) "components" =
          .ok components) := by
  have hu : p.Usable (Resolution.ofPayload payload).1 := Profile.Documented.usable hd
  refine ⟨fun _ => ?_, fun hp => ?_, ?_⟩
  · obtain ⟨c, hc⟩ := buildPayload_of_usable hl hu co
    rw [compilePayload_packaged hc]
    exact ⟨c, hc, fun hu => if_pos hu, fun hu => ⟨packagedText c, if_neg hu⟩⟩
  · rcases hp with rfl | rfl <;> rw [Profile.compiler, Profile.required_eq rfl] <;> exact ⟨_, rfl⟩
  · rintro rfl
    obtain ⟨components, hc, -⟩ :=
      (Profile.isAndroid_iff (Profile.required_eq rfl _ co)).mp (hu.android rfl)
    exact ⟨components, hc⟩

/-- An Android spec with licenses in one text, commands in a mapping, and settings that are not
set in place of mappings. -/
def unusualSpec : Payload where
  config := .ofList [
    (.text "language", .text "android"),
    (.text "git", .list []),
    (.text "cache", .mapping [(.text "directories", .text "ab"), (.bool true, .null)]),
    (.text "addons", .mapping [(.text "hosts", .int 0), (.text "other", .int 1)]),
    (.text "install", .mapping [(.text "make", .list [])]),
    (.text "android", .mapping [
      (.text "components", .list [.null]), (.text "licenses", .text "xy")])]

theorem documented_unusualSpec : Profile.android.Documented unusualSpec.config where
  distinct := Entries.distinct_ofList _
  texts := by decide +kernel
  cache h := by cases h; rfl
  git h := by cases h
  addons _ := rfl
  addon h e he a hn := by
    cases h
    rcases List.mem_cons.mp he with rfl | he
    · rfl
    · cases List.mem_singleton.mp he
      cases a <;> exact absurd (Scalar.text.inj hn) (by decide)
  android _ s h := by
    cases h
    exact ⟨_, rfl, by decide, fun h => .inr ⟨_, (Option.some.inj h).symm⟩,
      fun h => .inl ⟨_, (Option.some.inj h).symm⟩⟩

theorem language_unusualSpec :
    Registry.standard.get (Entries.get unusualSpec.config "language") = .ok .android :=
  Registry.get_of_lookup (by decide +kernel)

theorem documented_shapes_compile_unusual :
    unusualSpec.IsShort none ∧
      ∃ text, (compilePayload unusualSpec ⟨none, false⟩ none Template.packaged).1 = .ok text := by
  have short : unusualSpec.IsShort none := by decide +kernel
  obtain ⟨compiled, -, -⟩ :=
    documented_shapes_compile language_unusualSpec documented_unusualSpec ⟨none, false⟩ none
  obtain ⟨c, -, -, text⟩ := compiled short
  exact ⟨short, text (not_unencodable rfl c)⟩

def garbledSpec : Payload where
  config := .ofList [
    (.text "language", .text "haskell"),
    (.text "script", .text (String.ofList ("echo ".toList ++ Text.surrogate 0xd800)))]

theorem documented_garbledSpec : Profile.haskell.Documented garbledSpec.config where
  distinct := Entries.distinct_ofList _
  texts := by decide +kernel
  cache h := by cases h
  git h := by cases h
  addons h := by cases h
  addon h := by cases h
  android hp := by cases hp

theorem exists_garbled : ∃ c, (buildPayload garbledSpec none).1 = .ok c ∧
    Unencodable ⟨none, true⟩ c := by
  obtain ⟨c, hc, hp⟩ := exists_of_any (P := fun c => decide (Unencodable ⟨none, true⟩ c))
    (show (build ⟨garbledSpec, .configured⟩ none).1.toOption.any _ = true by decide +kernel)
  exact ⟨c, (buildPayload_fst_of_status rfl none).trans hc, of_decide_eq_true hp⟩

/-- A spec with the documented shapes whose compile fails only for the note of its tree. -/
theorem garbled_tree_not_noted :
    Registry.standard.get (Entries.get garbledSpec.config "language") = .ok .haskell ∧
      Profile.haskell.Documented garbledSpec.config ∧
      (∃ text, (compilePayload garbledSpec ⟨none, false⟩ none Template.packaged).1 = .ok text) ∧
      (compilePayload garbledSpec ⟨none, true⟩ none Template.packaged).1 =
        .error (.draft .unencodable) := by
  obtain ⟨c, hc, hu⟩ := exists_garbled
  refine ⟨Registry.get_of_lookup (by decide +kernel), documented_garbledSpec,
    ⟨_, compilePayload_of_quiet hc rfl⟩, ?_⟩
  rw [compilePayload_packaged hc, if_pos hu]

end Compiler

end BuildScript

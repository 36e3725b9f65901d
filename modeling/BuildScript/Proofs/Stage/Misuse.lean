import BuildScript.Proofs.Draft.Success
import BuildScript.Proofs.Stage.Completed
import BuildScript.Proofs.Stage.Result
import BuildScript.Proofs.Stage.Usable

/-! # Misuses

What stages that are completed have read of a spec shows that the spec is usable. So a build whose
stages are run ends in a misuse just if its spec is not usable. A misuse is the one fault of a
compile that is not reported.
-/

namespace BuildScript

open Shell Drafting Capability

namespace Profile

section Succeeds

variable {b : Build} {s : Support} {hook : String}

theorem git_of_checkout (h : Succeeds (checkout b))
    (hs : (Entries.get b.payload.repository "slug").isSet = true) :
    (b.entriesOf "git").isOk = true := by
  unfold checkout at h
  dsimp only at h
  rw [hs, if_neg (by decide)] at h
  obtain ⟨git, hg, h⟩ := h.of_read_bind
  obtain ⟨entries, he, -⟩ := h.of_read_bind
  rw [Build.entriesOf_eq hg, he]
  rfl

theorem addons_of_runAddons (h : Succeeds (runAddons b hook)) (hp : b.payload.paranoid = false) :
    ∃ es, b.entriesOf "addons" = .ok es ∧ ∀ e ∈ es, ∀ a : Addon, e.1 = .text a.name →
      a.hook = hook → (e.2.optionalTexts .sealed).isOk = true := by
  rw [runAddons, runParts, hp, if_neg (by decide)] at h
  obtain ⟨s, hs, h⟩ := h.of_read_bind
  obtain ⟨es, he, h⟩ := h.of_read_bind
  refine ⟨es, (Build.entriesOf_eq hs).trans he, ?_⟩
  rintro ⟨key, config⟩ hm a rfl rfl
  have hr : Succeeds (do
      note (.runningAddon a.name a.hook)
      a.run .sealed config .hook) := by
    have := h.of_forM _ hm
    simpa [runAddon, a.ofName?_name, Addon.part?] using this
  obtain ⟨values, hv, -⟩ := hr.of_then.of_read_bind
  rw [hv]
  rfl

theorem services_of_preSetup (h : Succeeds (preSetup b s)) :
    (b.textsOf "services").isOk = true ∧ Succeeds (runAddons b "after_pre_setup") := by
  obtain ⟨services, hs, h⟩ := h.of_read_bind
  obtain ⟨apt, -, h⟩ := h.of_then.of_read_bind
  have later : Succeeds (do
      s.fix .ps4
      runAddons b "after_pre_setup") := by
    split at h
    · exact h.of_then
    · exact h
  rw [hs]
  exact ⟨rfl, later.of_then⟩

theorem texts_of_afterResult (h : Succeeds (afterResult b)) :
    (b.textsOf "after_success").isOk = true ∧ (b.textsOf "after_failure").isOk = true := by
  obtain ⟨success, hs, h⟩ := h.of_read_bind
  obtain ⟨failure, hf, -⟩ := h.of_read_bind
  rw [hs, hf]
  exact ⟨rfl, rfl⟩

theorem directories_of_useDirectoryCache {action : CacheAction}
    (h : Succeeds (useDirectoryCache b s action)) (hc : b.caches "directories" = .ok true) :
    b.cacheDirectories.isOk = true := by
  rw [useDirectoryCache, hc] at h
  obtain ⟨_, hv, h⟩ := h.of_read_bind
  cases hv
  rw [if_pos rfl] at h
  obtain ⟨_, h⟩ := h.of_bind.2
  obtain ⟨directories, hd, -⟩ := h.of_read_bind
  rw [hd]
  rfl

theorem android_of_setup (h : Succeeds (androidHook b s .setup)) :
    ∃ components, androidList b "components" = .ok components ∧
      (components ≠ [] → ∃ licenses, androidList b "licenses" = .ok licenses ∧
        licenses.all Setting.isText = true) := by
  have setup : Succeeds (do
      jvmHook b s .setup
      let components ← Drafting.read (androidList b "components")
      if !components.isEmpty then
        installComponents b components) := h
  obtain ⟨components, hc, h⟩ := setup.of_then.of_read_bind
  refine ⟨components, hc, fun hn => ?_⟩
  obtain ⟨first, rest, rfl⟩ := List.exists_cons_of_ne_nil hn
  have fold : Succeeds (installComponents b (first :: rest)) := h
  have install : Succeeds (installComponent b first) :=
    fold.of_fold.of_then.of_forM first List.mem_cons_self
  obtain ⟨licenses, hl, h⟩ := install.of_read_bind
  obtain ⟨text, ht, -⟩ := h.of_read_bind
  refine ⟨licenses, hl, ?_⟩
  rw [← isOk_componentCommand first, ht]
  rfl

end Succeeds

end Profile

namespace Compiler

variable {r : Resolution} {co : Option Entries} {c : Compiled}

namespace Completed

variable (h : Completed r co c)
include h

theorem setting_eq (name : String) :
    c.build.setting name = .ok (Entries.get (c.profile.merged r) name) := by
  rw [h.build]
  rfl

theorem succeeds_hook (stage : Stage) (hk : stage.kind = .builtin) :
    Succeeds (c.profile.hook c.build (c.profile.support c.build) stage) := by
  obtain ⟨_, hw⟩ := h.stages stage
  rw [Profile.nodes, Profile.run_of_builtin hk] at hw
  exact hw.succeeds.of_then

theorem exists_parts (stage : Stage) (hk : stage.kind = .custom) :
    ∃ texts, Profile.Parts c.profile c.build stage texts := by
  obtain ⟨_, hw⟩ := h.stages stage
  exact Profile.exists_parts hk hw

theorem succeeds_preSetup : Succeeds (Profile.preSetup c.build (c.profile.support c.build)) := by
  rw [← Profile.hook_preSetup]
  exact h.succeeds_hook _ rfl

theorem succeeds_checkout : Succeeds (checkout c.build) := by
  rw [← Profile.hook_checkout c.profile c.build (c.profile.support c.build)]
  exact h.succeeds_hook _ rfl

theorem isOk_texts {name : String} (hn : name ∈ textKeys) : (c.build.textsOf name).isOk = true := by
  rcases List.mem_append.mp hn with hn | hn
  · obtain ⟨texts, parts⟩ := h.exists_parts .afterResult rfl
    obtain ⟨_, hw⟩ := parts.between
    rw [Profile.between_afterResult] at hw
    obtain ⟨hs, hf⟩ := Profile.texts_of_afterResult hw.succeeds
    obtain rfl | rfl | rfl : name = "services" ∨ name = "after_success" ∨ name = "after_failure" := by
      simpa using hn
    · exact (Profile.services_of_preSetup h.succeeds_preSetup).1
    · exact hs
    · exact hf
  · obtain ⟨stage, hm, rfl⟩ := List.mem_map.mp hn
    have hk : stage.kind = .custom := of_decide_eq_true (List.mem_filter.mp hm).2
    obtain ⟨texts, parts⟩ := h.exists_parts stage hk
    rw [parts.reads]
    rfl

theorem isOk_directories (hc : c.build.caches "directories" = .ok true) :
    c.build.cacheDirectories.isOk = true := by
  obtain ⟨_, hw⟩ := h.exit
  exact Profile.directories_of_useDirectoryCache hw.succeeds hc

theorem isAddons (hp : c.build.payload.paranoid = false) :
    (Entries.get (c.profile.merged r) "addons").isAddons = true := by
  obtain ⟨texts, install⟩ := h.exists_parts .install rfl
  obtain ⟨_, before⟩ := install.before
  obtain ⟨es, he, hosts⟩ :=
    Profile.addons_of_runAddons (Profile.services_of_preSetup h.succeeds_preSetup).2 hp
  obtain ⟨es', he', packages⟩ := Profile.addons_of_runAddons before.succeeds hp
  cases he.symm.trans he'
  refine (Build.isAddons_iff (h.setting_eq _)).mpr ⟨es, he, fun e hm a ha => ?_⟩
  cases a with
  | hosts => exact hosts e hm .hosts ha rfl
  | aptPackages => exact packages e hm .aptPackages ha rfl

theorem isCache : (Entries.get (c.profile.merged r) "cache").isCache = true := by
  have hs := h.setting_eq "cache"
  generalize Entries.get (c.profile.merged r) "cache" = s at hs ⊢
  cases s with
  | scalar | list => rfl
  | mapping es =>
    by_cases hd : (Entries.get es "directories").isSet = true
    · rw [← Build.isOk_cacheDirectories hs]
      refine h.isOk_directories ?_
      rw [Build.caches, hs]
      exact congrArg Except.ok hd
    · rw [Setting.isCache, Setting.isOptional, Bool.eq_false_iff.mpr hd]
      rfl

theorem isAndroid (hp : c.profile = .android) :
    (Entries.get (c.profile.merged r) "android").isAndroid = true := by
  have hook := h.succeeds_hook .setup rfl
  rw [hp] at hook
  have hr : c.build.config.required "android" =
      .ok (Entries.get (c.profile.merged r) "android") := by
    rw [h.build, hp]
    exact Profile.required_eq rfl r co
  exact (Profile.isAndroid_iff hr).mpr (Profile.android_of_setup hook)

/-- The spec of a completed build is usable. -/
theorem usable : c.profile.Usable r where
  texts name hn := by
    rw [← Build.isOk_textsOf (h.setting_eq name)]
    exact h.isOk_texts hn
  cache := h.isCache
  git hs := by
    rw [← Build.isOk_entriesOf (h.setting_eq "git")]
    exact Profile.git_of_checkout h.succeeds_checkout (h.build ▸ hs)
  addons hp := h.isAddons (h.build ▸ hp)
  android hp := h.isAndroid hp

end Completed

/-- A build ends in a misuse just if its stages are run on a spec that is not usable. -/
theorem misuse_iff_not_usable (r : Resolution) (co : Option Entries) :
    (∃ m, (build r co).1 = .error (.draft (.misuse m))) ↔
      ∃ p, Registry.standard.get (Entries.get r.payload.config "language") = .ok p ∧
        r.status ≠ .serverError ∧ ¬p.Usable r := by
  constructor
  · rintro ⟨m, hm⟩
    cases hl : Registry.standard.get (Entries.get r.payload.config "language") with
    | error e =>
      rw [build_of_unknown hl] at hm
      cases hm
    | ok p =>
      refine ⟨p, rfl, fun hs => ?_, fun hu => ?_⟩
      · rw [build_of_language hl, composed_of_stopped hs] at hm
        cases hm
      · obtain ⟨c, hc⟩ := build_of_usable hl hu co
        cases hc.symm.trans hm
  · rintro ⟨p, hl, hs, hu⟩
    rcases build_cases r co with ⟨e, he⟩ | ⟨_, ⟨f, ho, hf⟩ | ⟨s, _, hb⟩⟩
    · rw [build_of_language hl] at he
      cases hc : (composed p r co).1 <;> rw [hc] at he <;> cases he
    · cases ho with
      | failed hm =>
        obtain ⟨m, rfl⟩ := hm
        exact ⟨m, hf⟩
    · rcases completed_or_stopped hb with hc | ⟨hn, -⟩
      · obtain ⟨q, _, hq, _, he⟩ := exists_composed hb
        cases hl.symm.trans hq
        cases congrArg Compiled.profile he
        exact absurd hc.usable hu
      · exact absurd hn hs

/-- A compile fails for its language, which is reported, and else for what is not: a misuse, a tree
that cannot be noted, or templates other than the packaged ones. The misuses are those of specs that
are not usable, where the stages are run on them. Integers are taken to be short enough to be
written. -/
theorem misuse_escapes_iff_not_usable (payload : Payload) (options : Options) (co : Option Entries)
    (templates : Template.Renderer) : payload.IsShort co →
    (∀ f, (compilePayload payload options co templates).1 = .error f →
      (∃ e, f = .unknownLanguage e ∧ f.report? = some (e.message, 2)) ∨
      (∃ m, f = .draft (.misuse m) ∧ f.report? = none) ∨
      (f = .draft .unencodable ∧ f.report? = none) ∨
      ∃ c t, (buildPayload payload co).1 = .ok c ∧ assemble c templates = .error t ∧
        f = .template t) ∧
    (∀ t, (compilePayload payload options co Template.packaged).1 ≠ .error (.template t)) ∧
    ((∃ m, (compilePayload payload options co templates).1 = .error (.draft (.misuse m))) ↔
      ∃ p, Registry.standard.get (Entries.get payload.config "language") = .ok p ∧
        (Status.ofConfig payload.config).1 ≠ .serverError ∧
        ¬p.Usable (Resolution.ofPayload payload).1) ∧
    ((compilePayload payload options co templates).1 = .error (.draft .unencodable) ↔
      ∃ c, (buildPayload payload co).1 = .ok c ∧ Unencodable options c) := by
  intro _
  rw [compilePayload_fst, compilePayload_fst, buildPayload_fst]
  refine ⟨fun f h => ?faults, fun t h => ?packaged, ?misuse, ?garbled⟩
  case faults =>
    rcases fault_of_compile h with hb | ⟨_, _, _, rfl⟩ | template
    · rcases fault_of_build hb with ⟨e, rfl⟩ | ⟨m, rfl⟩
      · exact .inl ⟨e, rfl, rfl⟩
      · exact .inr (.inl ⟨m, rfl, rfl⟩)
    · exact .inr (.inr (.inl ⟨rfl, rfl⟩))
    · exact .inr (.inr (.inr template))
  case packaged =>
    rcases fault_of_compile h with hb | ⟨_, _, _, hu⟩ | ⟨c, _, _, ht, _⟩
    · rcases fault_of_build hb with ⟨_, he⟩ | ⟨_, hm⟩
      · cases he
      · cases hm
    · cases hu
    · rw [assemble_packaged] at ht
      cases ht
  case misuse =>
    refine Iff.trans (exists_congr fun m => ?_)
      (misuse_iff_not_usable (Resolution.ofPayload payload).1 co)
    constructor
    · intro h
      rcases fault_of_compile h with hb | ⟨_, _, _, hu⟩ | ⟨_, _, _, _, ht⟩
      · exact hb
      · cases hu
      · cases ht
    · exact fun h => compile_fst_error h options templates
  case garbled =>
    constructor
    · intro h
      rcases fault_of_compile h with hb | ⟨c, hc, hu, _⟩ | ⟨_, _, _, _, ht⟩
      · rcases fault_of_build hb with ⟨_, he⟩ | ⟨_, hm⟩
        · cases he
        · cases hm
      · exact ⟨c, hc, hu⟩
      · cases ht
    · rintro ⟨c, hc, hu⟩
      rw [compile_fst hc, outcome, if_pos hu]

def licensedSpec (components : List Setting) : Payload where
  config := .ofList [
    (.text "language", .text "android"),
    (.text "android", .mapping [
      (.text "components", .list components), (.text "licenses", .list [.int 5])])]

/-- The licenses are read only if there are components. -/
theorem misuse_escapes_iff_not_usable_licenses :
    (licensedSpec [.text "tools"]).IsShort none ∧ (licensedSpec []).IsShort none ∧
    (∃ m, (compilePayload (licensedSpec [.text "tools"]) ⟨none, false⟩ none Template.packaged).1 =
      .error (.draft (.misuse m))) ∧
    ¬∃ m, (compilePayload (licensedSpec []) ⟨none, false⟩ none Template.packaged).1 =
      .error (.draft (.misuse m)) := by
  have language (components : List Setting) :
      Registry.standard.get (Entries.get (licensedSpec components).config "language") =
        .ok .android := by
    change Registry.standard.get (.text "android") = _
    exact Registry.get_of_lookup (by decide +kernel)
  have short : (licensedSpec [.text "tools"]).IsShort none := by decide +kernel
  have none_short : (licensedSpec []).IsShort none := by decide +kernel
  obtain ⟨-, -, used, -⟩ := misuse_escapes_iff_not_usable (licensedSpec [.text "tools"])
    ⟨none, false⟩ none Template.packaged short
  obtain ⟨-, -, unused, -⟩ := misuse_escapes_iff_not_usable (licensedSpec []) ⟨none, false⟩ none
    Template.packaged none_short
  refine ⟨short, none_short, used.mpr ⟨.android, language _, by decide, by decide +kernel⟩,
    fun h => ?_⟩
  obtain ⟨p, hl, -, hu⟩ := unused.mp h
  cases (language []).symm.trans hl
  exact hu (by decide +kernel)

def numberedSpec : Payload where
  config := .ofList [(.text "language", .text "haskell"), (.text "services", .int 5)]

/-- A setting of the wrong shape ends a compile with a fault that is not reported. -/
theorem misuse_not_reported :
    ∃ f, (compilePayload numberedSpec ⟨none, false⟩ none Template.packaged).1 = .error f ∧
      f.report? = none := by
  have hl : Registry.standard.get (Entries.get numberedSpec.config "language") = .ok .haskell :=
    Registry.get_of_lookup (by decide +kernel)
  have hu : ¬Profile.haskell.Usable (Resolution.ofPayload numberedSpec).1 := by decide +kernel
  obtain ⟨m, hm⟩ := (misuse_iff_not_usable (Resolution.ofPayload numberedSpec).1 none).mpr
    ⟨.haskell, hl, by decide, hu⟩
  refine ⟨.draft (.misuse m), ?_, rfl⟩
  rw [compilePayload_fst]
  exact compile_fst_error hm _ _

end Compiler

end BuildScript

import BuildScript.Proofs.Stage.Concatenation
import BuildScript.Proofs.Stage.Reads

/-! # What each stage reads

A stage reads a few aspects of a build: the texts under a name, the kinds of cache, the checkout,
a setting of the toolchain. Builds that are the same outside their specs, and in the aspects of a
stage, are run alike at that stage.
-/

namespace BuildScript

open Capability

def Payload.withoutSpec (p : Payload) : Payload := { p with config := [] }

structure Build.SameOutside (b c : Build) : Prop where
  payload : b.payload.withoutSpec = c.payload.withoutSpec
  cacheOptions : b.cacheOptions = c.cacheOptions

/-- A part of the spec, as the stages that need it read it. -/
inductive Aspect
  | texts (name : String)
  | caches (kind : String)
  | directories
  | addons
  | environment
  | checkout
  | compiler
  | ghc
  | jdk
  | android (name : String)
deriving DecidableEq

namespace Aspect

/-- An aspect is the same of two builds. -/
def Same (b c : Build) : Aspect → Prop
  | .texts name => b.textsOf name = c.textsOf name
  | .caches kind => b.caches kind = c.caches kind
  | .directories => b.cacheDirectories = c.cacheDirectories
  | .addons => ∀ hook, runAddons b hook = runAddons c hook
  | .environment => Environment.groups b = Environment.groups c
  | .checkout => Capability.checkout b = Capability.checkout c
  | .compiler => Profile.compiler b = Profile.compiler c
  | .ghc => Profile.ghc b = Profile.ghc c
  | .jdk => Profile.jdk b = Profile.jdk c
  | .android name => Profile.androidList b name = Profile.androidList c name

def key : Aspect → String
  | .texts name => name
  | .caches _ | .directories => "cache"
  | .addons => "addons"
  | .environment => "env"
  | .checkout => "git"
  | .compiler => "compiler"
  | .ghc => "ghc"
  | .jdk => "jdk"
  | .android _ => "android"

/-- An aspect that has to be given, by the user or by the defaults of a profile. -/
def isRequired : Aspect → Bool
  | .compiler | .android _ => true
  | _ => false

variable {b c : Build}

theorem same_of_setting (ho : b.SameOutside c) {a : Aspect} (hs : b.setting a.key = c.setting a.key)
    (hr : a.isRequired = true → b.config.required a.key = c.config.required a.key) :
    a.Same b c := by
  cases a with
  | texts name => exact Build.textsOf_congr hs
  | caches kind => exact Build.caches_congr hs kind
  | directories => exact Build.cacheDirectories_congr hs
  | addons => exact runAddons_congr (congrArg Payload.paranoid ho.payload :) hs
  | environment =>
    have hv : b.payload.envVars = c.payload.envVars := (congrArg Payload.envVars ho.payload :)
    rw [key] at hs
    rw [Same, Environment.groups, Environment.groups, hs, hv]
  | checkout =>
    exact checkout_congr (congrArg Payload.repository ho.payload :)
      (congrArg Payload.job ho.payload :) hs
  | compiler => exact Profile.compiler_congr (hr rfl)
  | ghc => exact Profile.ghc_congr hs
  | jdk => exact Profile.jdk_congr hs
  | android name => exact Profile.androidList_congr (hr rfl) name

end Aspect

namespace Profile

def slugAspects : Profile → List Aspect
  | .c | .cpp => [.compiler]
  | .haskell => [.ghc]
  | .android | .java => [.jdk]
  | .base | .generic => []

def cacheAspects (p : Profile) : List Aspect :=
  [.caches "directories", .directories] ++ p.slugAspects

def sharedAspects (p : Profile) : Stage → List Aspect
  | .checkout => [.checkout]
  | .preSetup => [.texts "services", .caches "apt", .addons]
  | .environment => [.environment]
  | .setup => p.cacheAspects
  | .afterResult => [.texts "after_success", .texts "after_failure"]
  | .configure | .paranoidMode | .announce | .beforeInstall | .install | .beforeScript | .script
  | .afterScript => []

def ownAspects : Profile → Stage → List Aspect
  | .c, .environment | .cpp, .environment | .c, .announce | .cpp, .announce => [.compiler]
  | .haskell, .setup => [.ghc]
  | .java, .environment | .android, .environment | .java, .setup => [.jdk]
  | .android, .setup => [.jdk, .android "components", .android "licenses"]
  | _, _ => []

def customAspects (stage : Stage) : List Aspect :=
  match stage.kind with
  | .builtin => []
  | .custom => [.addons, .texts stage.name]

def stageAspects (p : Profile) (stage : Stage) : List Aspect :=
  customAspects stage ++ p.sharedAspects stage ++ p.ownAspects stage

/-- All that a profile reads of the spec. -/
def aspects (p : Profile) : List Aspect := Stage.all.flatMap p.stageAspects

theorem mem_aspects {p : Profile} {stage : Stage} {a : Aspect} (h : a ∈ p.stageAspects stage) :
    a ∈ p.aspects := List.mem_flatMap.mpr ⟨stage, stage.mem_all, h⟩

theorem cacheAspects_subset (p : Profile) : p.cacheAspects ⊆ p.aspects := by
  intro a h
  have setup : a ∈ p.stageAspects .setup := List.mem_append_left _ (List.mem_append_right _ h)
  exact mem_aspects setup

section Congr

variable {p : Profile} {b c : Build} {stage : Stage}

theorem cacheSlug_eq_of_same (h : ∀ a ∈ p.slugAspects, a.Same b c) :
    p.cacheSlug b = p.cacheSlug c := by
  cases p with
  | base | generic => rfl
  | c | cpp =>
    have own : compiler b = compiler c := h .compiler (by decide)
    rw [cacheSlug, cacheSlug, own]
  | haskell =>
    have own : ghc b = ghc c := h .ghc (by decide)
    rw [cacheSlug, cacheSlug, own]
  | android | java =>
    have own : jdk b = jdk c := h .jdk (by decide)
    rw [cacheSlug, cacheSlug, own]

variable (ho : b.SameOutside c)
include ho

theorem support_fix_eq (p : Profile) : (p.support b).fix = (p.support c).fix :=
  standard_congr (congrArg Payload.hosts ho.payload :)

theorem useDirectoryCache_congr (h : ∀ a ∈ p.cacheAspects, a.Same b c) (action : CacheAction) :
    useDirectoryCache b (p.support b) action = useDirectoryCache c (p.support c) action := by
  have slug := cacheSlug_eq_of_same fun a ha => h a (List.mem_append_right _ ha)
  have caches : b.caches "directories" = c.caches "directories" :=
    h (.caches "directories") List.mem_cons_self
  have directories : b.cacheDirectories = c.cacheDirectories :=
    h .directories (List.mem_cons_of_mem _ List.mem_cons_self)
  simp only [useDirectoryCache, support, slug, caches, directories, ho.cacheOptions]

theorem onExit_congr (h : ∀ a ∈ p.cacheAspects, a.Same b c) : p.onExit b = p.onExit c :=
  useDirectoryCache_congr ho h .push

theorem sharedHook_congr (h : ∀ a ∈ p.sharedAspects stage, a.Same b c) :
    sharedHook b (p.support b) stage = sharedHook c (p.support c) stage := by
  have fix := support_fix_eq ho p
  cases stage with
  | configure =>
    exact configure_congr (congrArg Payload.skipResolvUpdates ho.payload :)
      (congrArg Payload.skipEtcHostsFix ho.payload :) fix
  | checkout => exact h .checkout List.mem_cons_self
  | preSetup =>
    have addons : ∀ hook, runAddons b hook = runAddons c hook := h .addons (by simp [sharedAspects])
    exact preSetup_congr (h (.texts "services") List.mem_cons_self)
      (h (.caches "apt") (List.mem_cons_of_mem _ List.mem_cons_self)) (addons _) fix
  | paranoidMode => exact dropPrivileges_congr (congrArg Payload.paranoid ho.payload :)
  | environment =>
    have groups : Environment.groups b = Environment.groups c := h .environment List.mem_cons_self
    simp only [sharedHook, environment, groups]
  | setup => exact useDirectoryCache_congr ho h .fetch
  | afterResult =>
    exact afterResult_congr (h (.texts "after_success") List.mem_cons_self)
      (h (.texts "after_failure") (List.mem_cons_of_mem _ List.mem_cons_self))
  | announce | beforeInstall | install | beforeScript | script | afterScript => rfl

theorem jvmHook_congr (h : ∀ a ∈ p.sharedAspects stage, a.Same b c)
    (hj : stage = .environment ∨ stage = .setup → jdk b = jdk c) :
    jvmHook b (p.support b) stage = jvmHook c (p.support c) stage := by
  have shared := sharedHook_congr ho h
  cases stage with
  | environment => simp only [jvmHook, shared, hj (.inl rfl)]
  | setup => simp only [jvmHook, shared, hj (.inr rfl)]
  | announce => rfl
  | _ => exact shared

theorem hook_congr (h : ∀ a ∈ p.sharedAspects stage ++ p.ownAspects stage, a.Same b c) :
    p.hook b (p.support b) stage = p.hook c (p.support c) stage := by
  have own : ∀ a ∈ p.ownAspects stage, a.Same b c := fun a ha => h a (List.mem_append_right _ ha)
  have reads : ∀ a ∈ p.sharedAspects stage, a.Same b c := fun a ha =>
    h a (List.mem_append_left _ ha)
  have shared := sharedHook_congr ho reads
  clear h
  cases p with
  | base => exact shared
  | generic =>
    cases stage with
    | script => rfl
    | _ => exact shared
  | c =>
    cases stage with
    | environment | announce =>
      have own : compiler b = compiler c := own .compiler List.mem_cons_self
      simp only [hook, cHook, shared, own]
    | script => rfl
    | _ => exact shared
  | cpp =>
    cases stage with
    | environment | announce =>
      have own : compiler b = compiler c := own .compiler List.mem_cons_self
      simp only [hook, cppHook, shared, own]
    | script => rfl
    | _ => exact shared
  | haskell =>
    cases stage with
    | setup =>
      have own : ghc b = ghc c := own .ghc List.mem_cons_self
      simp only [hook, haskellHook, shared, own]
    | announce | install | script => rfl
    | _ => exact shared
  | java =>
    have jdk : stage = .environment ∨ stage = .setup → jdk b = jdk c := by
      rintro (rfl | rfl) <;> exact own .jdk List.mem_cons_self
    have jvm := jvmHook_congr ho reads jdk
    cases stage with
    | install | script => rfl
    | _ => exact jvm
  | android =>
    have jdk : stage = .environment ∨ stage = .setup → jdk b = jdk c := by
      rintro (rfl | rfl) <;> exact own .jdk List.mem_cons_self
    have jvm := jvmHook_congr ho reads jdk
    cases stage with
    | setup =>
      have components : androidList b "components" = androidList c "components" :=
        own (.android "components") (by decide)
      have install := installComponents_congr (own (.android "licenses") (by decide))
      simp only [hook, androidHook, jvm, components, install]
    | script => rfl
    | _ => exact jvm

theorem run_congr (h : ∀ a ∈ p.stageAspects stage, a.Same b c) :
    p.run b stage = p.run c stage := by
  rw [stageAspects, List.append_assoc] at h
  have hook := hook_congr ho fun a ha => h a (List.mem_append_right _ ha)
  unfold Profile.run Pipeline.runStage
  split
  · rw [hook]
  · next hk =>
    have custom : ∀ a ∈ customAspects stage, a.Same b c := fun a ha =>
      h a (List.mem_append_left _ ha)
    rw [customAspects, hk] at custom
    have addons : ∀ hook, runAddons b hook = runAddons c hook := custom .addons List.mem_cons_self
    have texts : b.textsOf stage.name = c.textsOf stage.name :=
      custom (.texts stage.name) (List.mem_cons_of_mem _ List.mem_cons_self)
    simp only [Pipeline.runCustom, addons, texts, hook]

omit ho in
theorem compose_congr (stages : ∀ stage, p.run b stage = p.run c stage)
    (exit : p.onExit b = p.onExit c) (status : Status) :
    Compiler.compose p b (p.hook b (p.support b)) status =
      Compiler.compose p c (p.hook c (p.support c)) status := by
  have stages : Pipeline.runStage b (p.hook b (p.support b)) =
      Pipeline.runStage c (p.hook c (p.support c)) := funext stages
  simp only [Compiler.compose, Pipeline.run, stages, exit]

end Congr

end Profile

end BuildScript

import BuildScript.Proofs.Draft.Twin
import BuildScript.Proofs.Secret.Payload
import BuildScript.Proofs.Stage.Hooks
import BuildScript.Proofs.Stage.Reads

/-! # Stages of builds that differ in secrets

On alike builds only the environment and the directory cache write different nodes, and those with
the same veil. Every other part of a stage reads nothing secret and is the same action on both.
-/

namespace BuildScript

open Shell Drafting Capability

namespace Build.Alike

variable {b c : Build} (h : b.Alike c)
include h

/-! ## Reads without secrets -/

theorem textsOf {name : String} (hn : name ≠ "env") : b.textsOf name = c.textsOf name :=
  Build.textsOf_congr (h.setting name hn)

theorem caches (kind : String) : b.caches kind = c.caches kind :=
  Build.caches_congr (h.setting "cache" (by decide)) kind

theorem cacheDirectories : b.cacheDirectories = c.cacheDirectories :=
  Build.cacheDirectories_congr (h.setting "cache" (by decide))

theorem compiler : Profile.compiler b = Profile.compiler c :=
  Profile.compiler_congr (h.required "compiler" (by decide))

theorem ghc : Profile.ghc b = Profile.ghc c := Profile.ghc_congr (h.setting "ghc" (by decide))

theorem jdk : Profile.jdk b = Profile.jdk c := Profile.jdk_congr (h.setting "jdk" (by decide))

theorem androidList (name : String) : Profile.androidList b name = Profile.androidList c name :=
  Profile.androidList_congr (h.required "android" (by decide)) name

theorem support (p : Profile) : p.support b = p.support c :=
  Profile.support_congr h.hosts (Profile.cacheSlug_congr h.compiler h.ghc h.jdk p)

theorem runAddons (hook : String) : Capability.runAddons b hook = Capability.runAddons c hook :=
  runAddons_congr h.paranoid (h.setting "addons" (by decide)) hook

/-! ## Actions that write secrets -/

omit h in
theorem twin_assign {v w : Environment.Variable} (hv : v.Alike w) :
    Twin (assign ⟨v.key, v.value, v.echo, v.secure⟩)
      (assign ⟨w.key, w.value, w.echo, w.secure⟩) := by
  cases hv with
  | same => exact .assign rfl
  | secure => exact .assign rfl

omit h in
theorem twin_exportGroup {g g' : Environment.Group} (hg : g.Alike g') :
    Twin (Profile.exportGroup g) (Profile.exportGroup g') := by
  unfold Profile.exportGroup
  rw [hg.isAnnounced, hg.source]
  exact .when (.message _ _) (.forM (fun _ _ hv => twin_assign hv) hg.members)

theorem twin_environment : Twin (Profile.environment b) (Profile.environment c) := by
  obtain ⟨gs, hs, hb, hc, hg⟩ := h.groups
  simp only [Profile.environment, hb, hc, Drafting.read, pure_bind,
    Environment.any_isAnnounced_congr hg]
  refine .then_bind (.assign _) fun _ => .then_bind (.assign _) fun _ =>
    .then_bind (.assign _) fun _ => .when .newline ?_
  exact .bind (.forM (fun _ _ hg => twin_exportGroup hg) hg) fun _ =>
    .of_steady (.ite .newline (.pure ()))

/-- The address of the cache stands in the command alone, which is secure if there is one. -/
theorem twin_useCache (action : CacheAction) (slug : String) (directories : Setting) :
    Twin (useCache b.cacheOptions action slug directories)
      (useCache c.cacheOptions action slug directories) := by
  have hc : ∀ members : List String, Twin
      (command { text := Capability.cacheCommand b.cacheOptions action slug members, echo := true,
                 timing := true, secure := Capability.hasCacheUrl b.cacheOptions })
      (command { text := Capability.cacheCommand c.cacheOptions action slug members, echo := true,
                 timing := true, secure := Capability.hasCacheUrl c.cacheOptions }) := by
    intro members
    rw [← h.hasCacheUrl]
    cases hu : Capability.hasCacheUrl b.cacheOptions with
    | true => exact .command rfl
    | false => exact .command (by rw [h.cacheCommand hu])
  refine .ite (.of_steady (.pure ())) (.fold _ ?_)
  cases action with
  | fetch => exact .then_bind (.message _ _) fun _ => .then_bind (.read _) fun _ => hc _
  | push => exact .then_bind (.read _) fun _ => hc _

theorem twin_useDirectoryCache {s : Profile.Support} (hs : s.Steady AnyNodes Unstructural)
    (action : CacheAction) :
    Twin (Profile.useDirectoryCache b s action) (Profile.useDirectoryCache c s action) := by
  simp only [Profile.useDirectoryCache, h.caches, h.cacheDirectories]
  exact .then_bind (.read _) fun _ => .ite
    (.then_bind hs.slug fun _ => .then_bind (.read _) fun _ => h.twin_useCache _ _ _)
    (.of_steady (.pure ()))

/-! ## Hooks of the profiles -/

section Hooks

variable {s : Profile.Support} (hs : s.Steady AnyNodes Unstructural)
include hs

theorem twin_sharedHook (stage : Stage) :
    Twin (Profile.sharedHook b s stage) (Profile.sharedHook c s stage) := by
  cases stage with
  | configure =>
    have he := Profile.configure_congr h.skipResolvUpdates h.skipEtcHostsFix (rfl : s.fix = s.fix)
    exact .of_eq he (Profile.steady_configure c hs)
  | checkout =>
    have he := checkout_congr h.repository h.job (h.setting "git" (by decide))
    exact .of_eq he (steady_checkout c)
  | preSetup =>
    have he := Profile.preSetup_congr (h.textsOf (by decide)) (h.caches "apt") (h.runAddons _)
      (rfl : s.fix = s.fix)
    exact .of_eq he (Profile.steady_preSetup c hs)
  | paranoidMode =>
    exact .of_eq (Profile.dropPrivileges_congr h.paranoid) (Profile.steady_dropPrivileges c)
  | environment => exact h.twin_environment
  | setup => exact h.twin_useDirectoryCache hs .fetch
  | afterResult =>
    have he := Profile.afterResult_congr (h.textsOf (by decide)) (h.textsOf (by decide))
    exact .of_eq he (Profile.steady_afterResult c)
  | announce | beforeInstall | install | beforeScript | script | afterScript =>
    exact .of_steady (.pure ())

theorem twin_genericHook (stage : Stage) :
    Twin (Profile.genericHook b s stage) (Profile.genericHook c s stage) := by
  have shared := h.twin_sharedHook hs stage
  cases stage with
  | script => exact .of_steady (.message _ _)
  | _ => exact shared

theorem twin_cHook (stage : Stage) : Twin (Profile.cHook b s stage) (Profile.cHook c s stage) := by
  have shared := h.twin_sharedHook hs stage
  cases stage with
  | environment =>
    refine .bind shared fun _ => .of_eq ?_ (.bind (.read _) fun _ => .assign _)
    rw [h.compiler]
  | announce =>
    refine .of_eq ?_ (Profile.steady_cHook c hs .announce)
    simp only [Profile.cHook, h.compiler]
  | script => exact .of_steady (Profile.steady_testCommand trivial)
  | _ => exact shared

theorem twin_cppHook (stage : Stage) :
    Twin (Profile.cppHook b s stage) (Profile.cppHook c s stage) := by
  have shared := h.twin_sharedHook hs stage
  cases stage with
  | environment =>
    refine .bind shared fun _ => .of_eq ?_ (.bind (.read _) fun _ => .bind (.assign _) fun _ =>
      .assign _)
    rw [h.compiler]
  | announce =>
    refine .of_eq ?_ (Profile.steady_cppHook c hs .announce)
    simp only [Profile.cppHook, h.compiler]
  | script => exact .of_steady (Profile.steady_testCommand trivial)
  | _ => exact shared

theorem twin_haskellHook (stage : Stage) :
    Twin (Profile.haskellHook b s stage) (Profile.haskellHook c s stage) := by
  have shared := h.twin_sharedHook hs stage
  cases stage with
  | setup =>
    refine .bind shared fun _ => .of_eq ?_ (.bind (.read _) fun _ => Profile.steady_exportGhc _)
    rw [h.ghc]
  | announce => exact .of_steady (Profile.steady_haskellHook b hs nofun)
  | install => exact .of_steady (Profile.steady_haskellHook b hs nofun)
  | script => exact .of_steady (Profile.steady_testCommand trivial)
  | _ => exact shared

theorem twin_jvmHook (stage : Stage) :
    Twin (Profile.jvmHook b s stage) (Profile.jvmHook c s stage) := by
  have shared := h.twin_sharedHook hs stage
  cases stage with
  | environment =>
    refine .bind shared fun _ => .of_eq ?_ (.bind (.read _) fun _ => steady_exportJdk _)
    rw [h.jdk]
  | setup =>
    refine .bind shared fun _ => .of_eq ?_ (.bind (.read _) fun _ => steady_switchJdk _)
    rw [h.jdk]
  | announce => exact .of_steady steady_announceJdk
  | _ => exact shared

theorem twin_androidHook (stage : Stage) :
    Twin (Profile.androidHook b s stage) (Profile.androidHook c s stage) := by
  have jvm := h.twin_jvmHook hs stage
  cases stage with
  | setup =>
    refine .bind jvm fun _ => .of_eq ?_ (.read_bind inferInstance fun _ hc =>
      .ite (Profile.steady_installComponents c hc) (.pure ()))
    simp only [h.androidList, Profile.installComponents_congr (h.androidList "licenses")]
  | script => exact .of_steady (.writes (Profile.writes_androidTests b s) trivial)
  | _ => exact jvm

theorem twin_javaHook (stage : Stage) :
    Twin (Profile.javaHook b s stage) (Profile.javaHook c s stage) := by
  have jvm := h.twin_jvmHook hs stage
  cases stage with
  | install => exact .of_steady (Profile.steady_javaInstall b s)
  | script => exact .of_steady (.writes (Profile.writes_javaTests b s) trivial)
  | _ => exact jvm

theorem twin_hook (p : Profile) (stage : Stage) : Twin (p.hook b s stage) (p.hook c s stage) := by
  cases p with
  | base => exact h.twin_sharedHook hs stage
  | generic => exact h.twin_genericHook hs stage
  | c => exact h.twin_cHook hs stage
  | cpp => exact h.twin_cppHook hs stage
  | haskell => exact h.twin_haskellHook hs stage
  | android => exact h.twin_androidHook hs stage
  | java => exact h.twin_javaHook hs stage

end Hooks

theorem twin_onExit (p : Profile) : Twin (p.onExit b) (p.onExit c) := by
  rw [Profile.onExit, Profile.onExit, h.support]
  exact h.twin_useDirectoryCache (Profile.steady_support p c) .push

theorem twin_runStage {hooks hooks' : Hooks} {stage : Stage}
    (hh : Twin (hooks stage) (hooks' stage)) :
    Twin (Pipeline.runStage b hooks stage) (Pipeline.runStage c hooks' stage) := by
  refine .then_bind (.note _) fun _ => ?_
  cases stage.kind with
  | builtin => exact hh
  | custom =>
    have hn : stage.name ≠ "env" := by cases stage <;> decide
    simp only [Pipeline.runCustom, h.runAddons, h.textsOf hn]
    refine .then_bind (steady_before c stage) fun _ => .then_bind (.read _) fun texts => ?_
    refine .ite (.bind hh fun _ => .of_steady (steady_after c stage)) ?_
    exact .then_bind (.writes (Pipeline.writes_userCommands stage texts) trivial) fun _ =>
      .of_steady (steady_after c stage)

theorem twin_run (p : Profile) (stage : Stage) : Twin (p.run b stage) (p.run c stage) := by
  rw [Profile.run, Profile.run, h.support]
  exact h.twin_runStage (h.twin_hook (Profile.steady_support p c) p stage)

end Build.Alike

end BuildScript

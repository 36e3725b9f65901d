import BuildScript.Proofs.Draft.Confined
import BuildScript.Proofs.Stage.Hooks

/-! # Hooks are confined

No capability and no hook of a profile starts a stage or finishes the builder, whatever it reads and
wherever it fails. The addons around the stages are confined as well.
-/

namespace BuildScript

open Shell Drafting Capability

namespace Drafting.Confined

instance runningAddon (name hook : String) : Confined (Drafting.note (.runningAddon name hook)) :=
  note rfl

instance addon (a : Addon) (config : Setting) (part : Addon.Part) :
    Confined (a.run .sealed config part) := by
  cases part with
  | idle => exact pure ()
  | member => exact throw .notRunnable
  | hook =>
    have (values : List String) : Confined (a.write values) := by
      cases a with
      | hosts => exact ite inferInstance inferInstance
      | aptPackages => exact ite inferInstance inferInstance
    exact bind (read _) inferInstance

instance runAddons (b : Build) (hook : String) : Confined (runAddons b hook) := by
  have (entry : Scalar × Setting) :
      Confined (runAddon (fun a config => a.part? config hook) hook entry) := by
    unfold runAddon
    dsimp only
    split
    · exact note rfl
    · split <;> infer_instance
  unfold Capability.runAddons runParts
  infer_instance

instance submodules : Confined submodules := conditional _ _

instance checkout (b : Build) : Confined (checkout b) := by
  have : Confined (Drafting.note .noRepository) := note rfl
  have (s : Setting) : Confined (Drafting.note (.unsupportedStrategy s)) := note rfl
  have rest : ∀ clone cd fetch commit (c₁ c₂ c₃ : Prop) [Decidable c₁] [Decidable c₂]
      [Decidable c₃], Confined (do
        Drafting.command clone "git.checkout"
        Drafting.command cd
        if c₁ then
          Drafting.command fetch "git.fetch"
        if c₂ then
          Drafting.command commit
        if c₃ then
          Capability.submodules) := by
    intro clone cd fetch commit c₁ c₂ c₃ _ _ _
    exact bind inferInstance fun _ => bind inferInstance fun _ =>
      when inferInstance (when inferInstance inferInstance)
  refine ite inferInstance (bind inferInstance fun _ => bind inferInstance fun _ => ?_)
  simp only
  split
  · exact rest ..
  · exact bind inferInstance fun _ => rest ..

instance startServices (names : List String) : Confined (startServices names) := by
  have (name : String) : Confined (startService name) := command _ _
  exact ite inferInstance inferInstance

instance useCache (options : Entries) (action : CacheAction) (slug : String)
    (directories : Setting) : Confined (useCache options action slug directories) := by
  unfold Capability.useCache
  cases action <;> infer_instance

instance exportJdk (version : Option String) : Confined (exportJdk version) := by
  cases version <;> unfold Capability.exportJdk <;> infer_instance

instance switchJdk (version : Option String) : Confined (switchJdk version) := by
  cases version <;> unfold Capability.switchJdk <;> infer_instance

instance announceJdk : Confined announceJdk := bind (command _ _) fun _ => command _ _

section Hooks

variable (b : Build) (p : Profile)

instance fix (f : Profile.Fix) : Confined (f.standard b) := by
  cases f with
  | resolvConf => exact inferInstanceAs (Confined (Drafting.command _))
  | etcHosts => exact inferInstanceAs (Confined (Drafting.command _))
  | ps4 => exact inferInstanceAs (Confined (Drafting.assign _))
  | aptCache =>
    change Confined (Profile.setUpAptCache b)
    unfold Profile.setUpAptCache
    split <;> infer_instance

instance useDirectoryCache (action : CacheAction) :
    Confined (Profile.useDirectoryCache b (p.support b) action) := by
  have : Confined (p.support b).slug := read _
  unfold Profile.useDirectoryCache
  infer_instance

instance environment : Confined (Profile.environment b) := by
  have (g : Environment.Group) : Confined (Profile.exportGroup g) := by
    unfold Profile.exportGroup
    infer_instance
  exact bind (assign _) fun _ => bind (assign _) fun _ => bind (assign _) fun _ =>
    bind (read _) fun _ => when newline inferInstance

instance sharedHook (stage : Stage) : Confined (Profile.sharedHook b (p.support b) stage) := by
  have (f : Profile.Fix) : Confined ((p.support b).fix f) := fix b f
  cases stage with
  | configure =>
    unfold Profile.sharedHook Profile.configure
    infer_instance
  | checkout => exact checkout b
  | preSetup =>
    unfold Profile.sharedHook Profile.preSetup
    infer_instance
  | paranoidMode => exact ite inferInstance inferInstance
  | environment => exact environment b
  | setup => exact useDirectoryCache b p .fetch
  | afterResult =>
    have (text : String) : Confined (Profile.timedCommand text) := command _ _
    unfold Profile.sharedHook Profile.afterResult
    infer_instance
  | announce | beforeInstall | install | beforeScript | script | afterScript => exact pure ()

instance testCommand (text : String) (asserted : Bool) :
    Confined (Profile.testCommand text asserted) := by
  unfold Profile.testCommand
  infer_instance

instance dependencies (text label : String) : Confined (Profile.dependencies text label) :=
  command _ _

instance announceVersion (program : String) : Confined (Profile.announceVersion program) :=
  command _ _

instance jvmHook (stage : Stage) : Confined (Profile.jvmHook b (p.support b) stage) := by
  unfold Profile.jvmHook
  split <;> infer_instance

instance installComponents (components : List Setting) :
    Confined (Profile.installComponents b components) := by
  have (component : Setting) : Confined (Profile.installComponent b component) := by
    unfold Profile.installComponent
    infer_instance
  unfold Profile.installComponents
  infer_instance

/-- Whatever a profile does at a stage is confined. -/
instance hook (stage : Stage) : Confined (p.hook b (p.support b) stage) := by
  cases p with
  | base => exact sharedHook b .base stage
  | generic =>
    change Confined (Profile.genericHook b _ stage)
    unfold Profile.genericHook
    split <;> infer_instance
  | c =>
    change Confined (Profile.cHook b _ stage)
    have : Confined Profile.autotoolsTest := testCommand _ _
    unfold Profile.cHook
    split <;> infer_instance
  | cpp =>
    change Confined (Profile.cppHook b _ stage)
    have : Confined Profile.autotoolsTest := testCommand _ _
    unfold Profile.cppHook
    split <;> infer_instance
  | haskell =>
    change Confined (Profile.haskellHook b _ stage)
    have (version : Option String) : Confined (Profile.exportGhc version) := by
      cases version <;> unfold Profile.exportGhc <;> infer_instance
    unfold Profile.haskellHook
    split <;> infer_instance
  | java =>
    change Confined (Profile.javaHook b _ stage)
    unfold Profile.javaHook
    split <;> infer_instance
  | android =>
    change Confined (Profile.androidHook b _ stage)
    unfold Profile.androidHook
    split
    · infer_instance
    · exact of_writes (Profile.writes_androidTests b (Profile.android.support b)) rfl
    · infer_instance

end Hooks

end Drafting.Confined

end BuildScript

import BuildScript.Proofs.Stage.Readable

/-! # Hooks are steady

Every capability and every hook of a profile writes the same wherever it is run: each block that it
opens it also closes, and it never begins an arm of a block around it. So every stage of a pipeline
is steady, with each property that is kept by composition and holds of the test commands. It fails
only where a setting cannot be read, with the faults of that read.
-/

namespace BuildScript

open Shell Drafting

variable {P : List Node → Prop} [Kept P] {F : Draft.Fault → Prop}

namespace Capability

theorem steady_submodules : Steady P F submodules :=
  .conditional _ (Writes.arms (Writes.fold _ ((writes_command _ "").bind (writes_command _ ""))))
    (Kept.fold _ (Kept.append (Kept.command _) (Kept.command _)))
    (List.forall_mem_nil _)

theorem steady_checkout (b : Build) [hb : b.Readable F] : Steady P F (checkout b) := by
  refine .choice (fun _ => .note _) fun hs => ?_
  refine .read_bind inferInstance fun git hg => .read_bind ?_ fun entries _ => ?_
  · rw [← Build.entriesOf_eq hg]
    exact hb.git (by simpa using hs)
  have rest : ∀ clone cd fetch commit (c₁ c₂ c₃ : Prop) [Decidable c₁] [Decidable c₂]
      [Decidable c₃], Steady P F (do
        command clone "git.checkout"
        command cd
        if c₁ then
          command fetch "git.fetch"
        if c₂ then
          command commit
        if c₃ then
          submodules) := by
    intro clone cd fetch commit c₁ c₂ c₃ _ _ _
    exact .bind (.command _ _) fun _ => .bind (.command _ _) fun _ =>
      .when (.command _ _) (.when (.command _ _) (.ite steady_submodules (.pure ())))
  simp only
  split
  · exact rest ..
  · exact .bind (.note _) fun _ => rest ..

theorem steady_startServices (names : List String) : Steady P F (startServices names) :=
  .ite (.pure ()) (.fold _ (.bind (.forM fun _ _ => .command _ _) fun _ => .raw (by decide)))

theorem steady_useCache (options : Entries) (action : CacheAction) (slug : String)
    (directories : Setting) [Admits F directories.members] :
    Steady P F (useCache options action slug directories) := by
  refine .ite (.pure ()) (.fold _ ?_)
  cases action with
  | fetch => exact .bind (.message _ _) fun _ => .bind (.read _) fun _ => .command _ _
  | push => exact .bind (.read _) fun _ => .command _ _

theorem steady_exportJdk (version : Option String) : Steady P F (exportJdk version) := by
  cases version with
  | none => exact .pure ()
  | some v => exact .assign _

theorem steady_switchJdk (version : Option String) : Steady P F (switchJdk version) := by
  cases version with
  | none => exact .pure ()
  | some v => exact .command _ _

theorem steady_announceJdk : Steady P F announceJdk :=
  .bind (.command _ _) fun _ => .command _ _

theorem Addon.name_of_ofName? {name : String} {a : Addon} (h : Addon.ofName? name = some a) :
    a.name = name := by
  have hn := List.find?_some h
  exact beq_iff_eq.mp hn

theorem Addon.steady_write (a : Addon) (values : List String) : Steady P F (a.write values) := by
  cases a with
  | hosts => exact .ite (.pure ()) (.command _ _)
  | aptPackages =>
    exact .ite (.pure ()) (.fold _ (.bind (.message _ _) fun _ => .command _ _))

theorem Addon.steady_run (a : Addon) {form : Setting.Form} {config : Setting} {part : Part}
    (hp : part ≠ .member) [Admits F (config.optionalTexts form)] :
    Steady P F (a.run form config part) := by
  cases part with
  | hook => exact .bind (.read _) fun values => a.steady_write values
  | idle => exact .pure ()
  | member => exact absurd rfl hp

theorem Addon.hook_of_part? {a : Addon} {config : Setting} {hook : String}
    (h : a.part? config hook = some .member) : hook ∈ ["name", "_as_list", "config"] := by
  unfold part? at h
  split at h
  · cases h
  · split at h <;> simp_all

theorem Addon.part?_ne_member {hook : String}
    (h : ∃ stage : Stage, hook = "before_" ++ stage.name ∨ hook = "after_" ++ stage.name)
    (a : Addon) (config : Setting) : a.part? config hook ≠ some .member := by
  intro hm
  have hn := hook_of_part? hm
  obtain ⟨stage, rfl | rfl⟩ := h <;> revert hn <;> cases stage <;> decide

theorem steady_runAddon {partOf? : Addon → Setting → Option Addon.Part} {hook : String}
    {entry : Scalar × Setting} (hp : ∀ a config, partOf? a config ≠ some .member)
    (ha : ∀ {a : Addon}, entry.1 = .text a.name → Admits F (entry.2.optionalTexts .sealed)) :
    Steady P F (runAddon partOf? hook entry) := by
  unfold runAddon
  dsimp only
  split
  · exact .note _
  · next a he =>
    split
    · next part hq =>
      split at he
      · next name hn =>
        have := ha (Addon.name_of_ofName? he ▸ hn)
        exact .bind (.note _) fun _ => Addon.steady_run a fun hm => hp a entry.2 (hm ▸ hq)
      · cases he
    · exact .pure ()

theorem steady_runAddons (b : Build) [hb : b.Readable F] {hook : String}
    (hh : ∃ stage : Stage, hook = "before_" ++ stage.name ∨ hook = "after_" ++ stage.name) :
    Steady P F (runAddons b hook) := by
  refine .choice (fun _ => .pure ()) fun hp => .read_bind inferInstance fun s hs => ?_
  rw [← Build.entriesOf_eq hs]
  have hp : b.payload.paranoid = false := Bool.eq_false_iff.mpr hp
  exact .read_bind (hb.addons hp) fun es he => .forM fun e hm =>
    steady_runAddon (Addon.part?_ne_member hh) (hb.addon hp he hm)

theorem steady_before (b : Build) [b.Readable F] (stage : Stage) :
    Steady P F (runAddons b ("before_" ++ stage.name)) := steady_runAddons b ⟨stage, .inl rfl⟩

theorem steady_after (b : Build) [b.Readable F] (stage : Stage) :
    Steady P F (runAddons b ("after_" ++ stage.name)) := steady_runAddons b ⟨stage, .inr rfl⟩

end Capability

namespace Profile

open Capability

/-- What a hook hands over to its profile is steady. -/
structure Support.Steady (P : List Node → Prop) (F : Draft.Fault → Prop) (s : Support) : Prop where
  fix : ∀ f, Drafting.Steady P F (s.fix f)
  slug : Drafting.Steady P F s.slug

theorem steady_setUpAptCache (b : Build) : Steady P F (setUpAptCache b) := by
  unfold setUpAptCache
  split
  · exact .pure ()
  · exact .bind (.message _ _) fun _ => .command _ _

theorem steady_fix (b : Build) (f : Fix) : Drafting.Steady P F (f.standard b) := by
  cases f with
  | resolvConf =>
    change Drafting.Steady P F fixResolvConf
    exact .command _ _
  | etcHosts =>
    change Drafting.Steady P F fixEtcHosts
    exact .command _ _
  | aptCache => exact steady_setUpAptCache b
  | ps4 => exact .assign _

theorem steady_support (p : Profile) (b : Build) [p.Readable F b] : (p.support b).Steady P F :=
  have := admits_cacheSlug (F := F) p b
  ⟨steady_fix b, .read _⟩

/-- The nodes of a test command: its own, and the record of its result unless it is asserted. -/
def testNodes (text : String) (asserted : Bool) : List Node :=
  .command { text := text, echo := true, asserted := asserted, timing := true } ::
    if asserted then [] else [.raw "cibuild_result $?"]

theorem writes_testCommand (text : String) (asserted : Bool) :
    Writes (testCommand text asserted) () (testNodes text asserted) [] := by
  cases asserted with
  | true => exact (writes_command _ "").bind (Writes.pure ())
  | false => exact (writes_command _ "").bind (writes_append _)

omit [Kept P] in
theorem steady_testCommand {text : String} {asserted : Bool} (h : P (testNodes text asserted)) :
    Steady P F (testCommand text asserted) := .writes (writes_testCommand text asserted) h

def timedNodes (text : String) : List Node :=
  [.command { text := text, echo := true, timing := true }]

theorem writes_timedCommands (texts : List String) :
    Writes (texts.forM timedCommand) () (texts.flatMap timedNodes) [] :=
  Writes.forM (fun _ => writes_command _ "") texts

theorem kept_timedNodes (texts : List String) : P (texts.flatMap timedNodes) :=
  Kept.flatMap fun _ _ => Kept.command _

def verdict (success failure : List String) : List Branch :=
  if success.isEmpty then [⟨some "[[ $CIBUILD_TEST_RESULT != 0 ]]", failure.flatMap timedNodes⟩]
  else ⟨some "[[ $CIBUILD_TEST_RESULT = 0 ]]", success.flatMap timedNodes⟩ ::
    if failure.isEmpty then [] else [⟨none, failure.flatMap timedNodes⟩]

def resultNodes (success failure : List String) : List Node :=
  if success.isEmpty && failure.isEmpty then [] else [.conditional (verdict success failure)]

theorem writes_afterResult {b : Build} {success failure : List String}
    (hs : b.textsOf "after_success" = .ok success) (hf : b.textsOf "after_failure" = .ok failure) :
    Writes (afterResult b) () (resultNodes success failure) [] := by
  simp only [afterResult, hs, hf, Drafting.read, pure_bind, resultNodes, verdict]
  cases success with
  | nil =>
    cases failure with
    | nil => exact Writes.pure ()
    | cons text rest => exact (writes_timedCommands (text :: rest)).arms.conditional _
  | cons text rest =>
    have own := writes_timedCommands (text :: rest)
    cases failure with
    | nil =>
      have h := (own.bind (Writes.pure ())).arms.conditional "[[ $CIBUILD_TEST_RESULT = 0 ]]"
      rwa [List.append_nil] at h
    | cons other more =>
      have arms := Writes.bind_arms (k := fun _ => do orElse; (other :: more).forM timedCommand)
        own (WritesArms.orElse (writes_timedCommands (other :: more)))
      have h := arms.conditional "[[ $CIBUILD_TEST_RESULT = 0 ]]"
      rwa [List.append_nil] at h

theorem kept_verdict (success failure : List String) :
    ∀ arm ∈ verdict success failure, P arm.body := by
  have hf := kept_timedNodes (P := P) failure
  unfold verdict
  split
  · exact List.forall_mem_singleton.mpr hf
  · refine List.forall_mem_cons.mpr ⟨kept_timedNodes success, ?_⟩
    split
    · exact List.forall_mem_nil _
    · exact List.forall_mem_singleton.mpr hf

theorem kept_resultNodes (success failure : List String) : P (resultNodes success failure) := by
  unfold resultNodes
  split
  · exact Kept.nil
  · exact Kept.conditional (kept_verdict success failure)

section Shared

variable (b : Build) {s : Support} (hs : s.Steady P F)
include hs

theorem steady_configure : Steady P F (configure b s) := by
  unfold configure
  exact .when (hs.fix _) (.ite (hs.fix _) (.pure ()))

theorem steady_preSetup [hb : b.Readable F] : Steady P F (preSetup b s) := by
  have := hb.texts (show "services" ∈ textKeys by decide)
  exact .bind (.read _) fun _ => .bind (steady_startServices _) fun _ => .bind (.read _) fun _ =>
    .when (hs.fix _) (.bind (hs.fix _) fun _ => steady_after b .preSetup)

theorem steady_useDirectoryCache [b.Readable F] (action : CacheAction) :
    Steady P F (useDirectoryCache b s action) := by
  refine .bind (.read _) fun _ => .ite (.bind hs.slug fun slug => .bind (.read _) fun texts => ?_)
    (.pure ())
  have : Admits F (Setting.list (texts.map .text)).members := .ok _
  exact steady_useCache ..

omit hs

theorem steady_dropPrivileges : Steady P F (dropPrivileges b) :=
  .ite (.bind .newline fun _ => .bind (.message _ _) fun _ => .bind .newline fun _ =>
    .command _ _) (.pure ())

theorem steady_exportGroup (g : Environment.Group) : Steady P F (exportGroup g) := by
  unfold exportGroup
  exact .when (.message _ _) (.forM fun _ _ => .assign _)

theorem steady_environment [b.Readable F] : Steady P F (environment b) :=
  .bind (.assign _) fun _ => .bind (.assign _) fun _ => .bind (.assign _) fun _ =>
    .bind (.read _) fun _ => .when .newline
      (.bind (.forM fun g _ => steady_exportGroup g) fun _ => .ite .newline (.pure ()))

theorem steady_afterResult [hb : b.Readable F] : Steady P F (afterResult b) := by
  cases hs : b.textsOf "after_success" with
  | error m =>
    rw [afterResult, hs]
    exact .fails (fails_throw (.misuse m)).bind ((hb.texts (by decide)).misuse hs)
  | ok success =>
    cases hf : b.textsOf "after_failure" with
    | error m =>
      rw [afterResult, hs, hf]
      exact .fails ((Writes.pure success).bind_fails (fails_throw (.misuse m)).bind)
        ((hb.texts (by decide)).misuse hf)
    | ok failure => exact .writes (writes_afterResult hs hf) (kept_resultNodes success failure)

include hs

theorem steady_sharedHook [b.Readable F] (stage : Stage) : Steady P F (sharedHook b s stage) := by
  cases stage with
  | configure => exact steady_configure b hs
  | checkout => exact steady_checkout b
  | preSetup => exact steady_preSetup b hs
  | paranoidMode => exact steady_dropPrivileges b
  | environment => exact steady_environment b
  | setup => exact steady_useDirectoryCache b hs .fetch
  | afterResult => exact steady_afterResult b
  | announce | beforeInstall | install | beforeScript | script | afterScript => exact .pure ()

end Shared

theorem steady_exportGhc (version : Option String) : Steady P F (exportGhc version) := by
  cases version with
  | none => exact .pure ()
  | some v => exact .assign _

theorem steady_installComponent {b : Build} {component : Setting}
    (hl : Admits F (androidList b "licenses"))
    (hc : ∀ {licenses}, androidList b "licenses" = .ok licenses →
      Admits F (componentCommand component licenses)) :
    Steady P F (installComponent b component) :=
  .read_bind hl fun _ h => .read_bind (hc h) fun _ _ => .command _ _

theorem steady_installComponents (b : Build) [hb : AndroidReadable F b] {components : List Setting}
    (hc : androidList b "components" = .ok components) :
    Steady P F (installComponents b components) :=
  .fold _ (.bind (.message _ _) fun _ => .forM fun _ hm =>
    steady_installComponent (hb.licenses hc (List.ne_nil_of_mem hm)) (hb.command hc hm))

def testArms (choices : List (String × String)) (otherwise : String) : List Branch :=
  choices.map (fun choice => ⟨some choice.1, testNodes choice.2 false⟩) ++
    [⟨none, testNodes otherwise false⟩]

def androidTestArms : List Branch :=
  testArms [
    ("[[ -f gradlew ]]", "./gradlew build connectedCheck"),
    ("[[ -f build.gradle ]]", "gradle build connectedCheck"),
    ("[[ -f pom.xml ]]", "mvn install -B")] "ant debug installt test"

def javaTestArms : List Branch :=
  testArms [("[[ -f build.gradle ]]", "gradle check"), ("[[ -f pom.xml ]]", "mvn test -B")]
    "ant test"

theorem writes_androidTests (b : Build) (s : Support) :
    Writes (androidHook b s .script) () [.conditional androidTestArms] [] :=
  WritesArms.conditional _ <| (writes_testCommand _ _).bind_arms <|
    WritesArms.elseIf _ <| (writes_testCommand _ _).bind_arms <|
    WritesArms.elseIf _ <| (writes_testCommand _ _).bind_arms <|
    WritesArms.orElse <| writes_testCommand _ _

theorem writes_javaTests (b : Build) (s : Support) :
    Writes (javaHook b s .script) () [.conditional javaTestArms] [] :=
  WritesArms.conditional _ <| (writes_testCommand _ _).bind_arms <|
    WritesArms.elseIf _ <| (writes_testCommand _ _).bind_arms <|
    WritesArms.orElse <| writes_testCommand _ _

omit [Kept P] in
theorem kept_testArms {choices : List (String × String)} {otherwise : String}
    (h : ∀ text ∈ choices.map Prod.snd ++ [otherwise], P (testNodes text false)) :
    ∀ arm ∈ testArms choices otherwise, P arm.body := by
  obtain ⟨chosen, last⟩ := List.forall_mem_append.mp h
  refine List.forall_mem_append.mpr ⟨List.forall_mem_map.mpr fun choice hc => ?_, ?_⟩
  · exact List.forall_mem_map.mp chosen choice hc
  · exact List.forall_mem_singleton.mpr (last otherwise (List.mem_singleton_self otherwise))

theorem steady_javaInstall (b : Build) (s : Support) : Steady P F (javaHook b s .install) :=
  .conditional _ ((writes_command _ _).bind_arms (WritesArms.elseIf _ (writes_command _ _).arms))
    (Kept.append (Kept.commandNodes _ _) Kept.nil)
    (List.forall_mem_singleton.mpr (Kept.commandNodes _ _))

section Profiles

variable (b : Build) [b.Readable F] {s : Support} (hs : s.Steady P F)
include hs

theorem steady_cHook [Admits F (compiler b)] (stage : Stage) : Steady P F (cHook b s stage) := by
  unfold cHook
  split
  · exact .bind (steady_environment b) fun _ => .bind (.read _) fun _ => .assign _
  · exact .bind (.read _) fun _ => .command _ _
  · exact steady_testCommand (Kept.command _)
  · exact steady_sharedHook b hs _

theorem steady_cppHook [Admits F (compiler b)] (stage : Stage) : Steady P F (cppHook b s stage) := by
  unfold cppHook
  split
  · exact .bind (steady_environment b) fun _ => .bind (.read _) fun _ =>
      .bind (.assign _) fun _ => .assign _
  · exact .bind (.read _) fun _ => .command _ _
  · exact steady_testCommand (Kept.command _)
  · exact steady_sharedHook b hs _

theorem steady_haskellHook {stage : Stage} (ht : stage = .script → ∀ text, P (testNodes text false)) :
    Steady P F (haskellHook b s stage) := by
  unfold haskellHook
  split
  · exact .bind (steady_useDirectoryCache b hs _) fun _ => .bind (.read _) fun _ =>
      steady_exportGhc _
  · exact .bind (.command _ _) fun _ => .command _ _
  · exact .bind (.command _ _) fun _ => .command _ _
  · exact steady_testCommand (ht rfl _)
  · exact steady_sharedHook b hs _

theorem steady_jvmHook (stage : Stage) : Steady P F (jvmHook b s stage) := by
  unfold jvmHook
  split
  · exact .bind (steady_environment b) fun _ => .bind (.read _) fun _ => steady_exportJdk _
  · exact .bind (steady_useDirectoryCache b hs _) fun _ => .bind (.read _) fun _ =>
      steady_switchJdk _
  · exact steady_announceJdk
  · exact steady_sharedHook b hs _

theorem steady_androidHook [AndroidReadable F b] {stage : Stage}
    (ht : stage = .script → ∀ text, P (testNodes text false)) :
    Steady P F (androidHook b s stage) := by
  unfold androidHook
  split
  · exact .bind (steady_jvmHook b hs .setup) fun _ => .read_bind inferInstance fun _ hc =>
      .ite (steady_installComponents b hc) (.pure ())
  · exact .writes (writes_androidTests b s) (Kept.conditional (kept_testArms fun text _ => ht rfl text))
  · exact steady_jvmHook b hs _

theorem steady_javaHook {stage : Stage} (ht : stage = .script → ∀ text, P (testNodes text false)) :
    Steady P F (javaHook b s stage) := by
  unfold javaHook
  split
  · exact steady_javaInstall b s
  · exact .writes (writes_javaTests b s) (Kept.conditional (kept_testArms fun text _ => ht rfl text))
  · exact steady_jvmHook b hs _

theorem steady_genericHook (stage : Stage) : Steady P F (genericHook b s stage) := by
  unfold genericHook
  split
  · exact .message _ _
  · exact steady_sharedHook b hs _

theorem steady_hook (p : Profile) (own : p.OwnReadable F b) {stage : Stage}
    (ht : stage = .script → ∀ text, P (testNodes text false)) : Steady P F (p.hook b s stage) := by
  cases p with
  | base => exact steady_sharedHook b hs stage
  | generic => exact steady_genericHook b hs stage
  | c =>
    have : Admits F (compiler b) := own
    exact steady_cHook b hs stage
  | cpp =>
    have : Admits F (compiler b) := own
    exact steady_cppHook b hs stage
  | haskell => exact steady_haskellHook b hs ht
  | android =>
    have : AndroidReadable F b := own
    exact steady_androidHook b hs ht
  | java => exact steady_javaHook b hs ht

end Profiles

theorem steady_onExit (p : Profile) (b : Build) [h : p.Readable F b] : Steady P F (p.onExit b) := by
  have := h.shared
  exact steady_useDirectoryCache b (steady_support p b) .push

end Profile

namespace Pipeline

open Capability

/-- The nodes of user commands in folds, from the `index`th of `count` on. -/
def foldedNodes (name : String) (asserted : Bool) (count : Nat) : Nat → List String → List Node
  | _, [] => []
  | index, text :: rest =>
    commandNodes { text := text, echo := true, asserted := asserted, timing := true }
      (foldLabel name count index) ++ foldedNodes name asserted count (index + 1) rest

theorem writes_foldedFrom (name : String) (asserted : Bool) (count index : Nat)
    (texts : List String) :
    Writes (foldedFrom name asserted count index texts) ()
      (foldedNodes name asserted count index texts) [] := by
  induction texts generalizing index with
  | nil => exact Writes.pure ()
  | cons text rest ih => exact (writes_command _ _).bind (ih (index + 1))

def userNodes (stage : Stage) (texts : List String) : List Node :=
  if stage = .script then texts.flatMap fun text => Profile.testNodes text false
  else foldedNodes stage.name stage.isAsserted texts.length 1 texts

theorem writes_userCommands (stage : Stage) (texts : List String) :
    Writes (userCommands stage texts) () (userNodes stage texts) [] := by
  unfold userCommands userNodes
  split
  · exact Writes.forM (fun text => Profile.writes_testCommand text false) texts
  · exact writes_foldedFrom _ _ _ _ _

theorem kept_foldedNodes (name : String) (asserted : Bool) (count index : Nat)
    (texts : List String) : P (foldedNodes name asserted count index texts) := by
  induction texts generalizing index with
  | nil => exact Kept.nil
  | cons text rest ih => exact Kept.append (Kept.commandNodes _ _) (ih (index + 1))

section Stages

variable (b : Build) {hooks : Hooks} {stage : Stage} (h : Steady P F (hooks stage))
  (ht : stage = .script → ∀ text, P (Profile.testNodes text false))
include ht

theorem kept_userNodes (texts : List String) : P (userNodes stage texts) := by
  unfold userNodes
  split
  · next hs => exact Kept.flatMap fun text _ => ht hs text
  · exact kept_foldedNodes _ _ _ _ texts

include h

theorem steady_runCustom [hb : b.Readable F] (hk : stage.kind = .custom) :
    Steady P F (runCustom b hooks stage) := by
  have := hb.texts (Stage.name_mem_textKeys hk)
  refine .bind (steady_before b stage) fun _ => .bind (.read _) fun texts => .ite ?_ ?_
  · exact .bind h fun _ => steady_after b stage
  · exact .bind (.writes (writes_userCommands stage texts) (kept_userNodes ht texts)) fun _ =>
      steady_after b stage

theorem steady_runStage [b.Readable F] : Steady P F (runStage b hooks stage) := by
  refine .bind (.note _) fun _ => ?_
  split
  · exact h
  · next hk => exact steady_runCustom b h ht hk

end Stages

end Pipeline

def Profile.run (p : Profile) (b : Build) (stage : Stage) : Drafting Unit :=
  Pipeline.runStage b (p.hook b (p.support b)) stage

/-- A stage writes nodes with every property that is kept and holds of the test commands. -/
theorem Profile.keeps_run (p : Profile) (b : Build) [h : p.Readable F b] {stage : Stage}
    (ht : stage = .script → ∀ text, P (testNodes text false)) : Steady P F (p.run b stage) := by
  have := h.shared
  exact Pipeline.steady_runStage b (steady_hook b (steady_support p b) p h.own ht) ht

theorem Profile.steady_run (p : Profile) (b : Build) (stage : Stage) :
    Steady AnyNodes Unstructural (p.run b stage) := p.keeps_run b fun _ _ => trivial

end BuildScript

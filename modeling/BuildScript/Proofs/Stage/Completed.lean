import BuildScript.Proofs.Stage.Concatenation

/-! # Completed builds

A build that succeeds has either been stopped for its status, or each stage and the exit hook have
written what they write by themselves. So every property of nodes that is kept by composition and
holds of the test commands holds of the scripts of every build.
-/

namespace BuildScript

open Shell Drafting Capability

theorem Drafting.eq_of_writes_read {α : Type} {x : Except Setting.Misuse α} {a : α}
    {ns : List Node} {js : Journal} (h : Writes (read x) a ns js) : x = .ok a ∧ ns = [] := by
  cases x with
  | error m => cases h.apply_empty
  | ok a' =>
    cases (Writes.pure a').apply_empty.symm.trans h.apply_empty
    exact ⟨rfl, rfl⟩

namespace Profile

variable {p : Profile} {b : Build} {stage : Stage} {texts : List String} {js : Journal}

def between (p : Profile) (b : Build) (stage : Stage) (texts : List String) : Drafting Unit :=
  if texts.isEmpty || stage = .afterResult then p.hook b (p.support b) stage
  else Pipeline.userCommands stage texts

theorem steady_between : Steady AnyNodes Unstructural (p.between b stage texts) :=
  .ite (steady_hook b (steady_support p b) p Readable.own fun _ _ => trivial)
    (.writes (Pipeline.writes_userCommands stage texts) trivial)

theorem run_eq (hk : stage.kind = .custom) :
    p.run b stage = (do
      note (.running stage)
      runAddons b ("before_" ++ stage.name)
      let texts ← Drafting.read (b.textsOf stage.name)
      p.between b stage texts
      runAddons b ("after_" ++ stage.name)) := by
  simp only [run, Pipeline.runStage, hk, Pipeline.runCustom, between]
  refine bind_congr fun _ => bind_congr fun _ => bind_congr fun texts => ?_
  split <;> rfl

theorem between_afterResult (p : Profile) (b : Build) (texts : List String) :
    p.between b .afterResult texts = afterResult b := by
  unfold between
  rw [decide_eq_true rfl, Bool.or_true, if_pos rfl]
  cases p <;> rfl

theorem hook_checkout (p : Profile) (b : Build) (s : Support) :
    p.hook b s .checkout = checkout b := by
  cases p <;> rfl

theorem hook_preSetup (p : Profile) (b : Build) (s : Support) :
    p.hook b s .preSetup = preSetup b s := by
  cases p <;> rfl

theorem run_of_builtin (hk : stage.kind = .builtin) :
    p.run b stage = (do
      note (.running stage)
      p.hook b (p.support b) stage) := by
  simp only [run, Pipeline.runStage, hk]

theorem nodes_of_builtin (hk : stage.kind = .builtin) {x y : Drafting Unit}
    (he : p.hook b (p.support b) stage = x >>= fun _ => y) (hx : Steady AnyNodes Unstructural x)
    (hy : Steady AnyNodes Unstructural y) (h : Writes (p.run b stage) () (p.nodes b stage) js) :
    p.nodes b stage = alone x ++ alone y ∧ (∃ js, Writes x () (alone x) js) ∧
      ∃ js, Writes y () (alone y) js := by
  rw [run_of_builtin hk, he] at h
  have note : Steady AnyNodes Unstructural (note (.running stage)) := .note _
  obtain ⟨_, _, _, -, hh, hs⟩ := note.of_bind (fun _ => hx.bind fun _ => hy) h
  obtain ⟨_, _, _, hw, hn, hp⟩ := hx.of_bind (fun _ => hy) hh
  rw [(writes_note _).alone_eq, List.nil_append] at hs
  exact ⟨hs.trans hp, ⟨_, hw⟩, ⟨_, hn⟩⟩

/-- A custom stage that writes has read the commands of the user, and writes what its addons write
and between them those commands or its hook. -/
structure Parts (p : Profile) (b : Build) (stage : Stage) (texts : List String) : Prop where
  reads : b.textsOf stage.name = .ok texts
  nodes : p.nodes b stage = alone (runAddons b ("before_" ++ stage.name)) ++
    (alone (p.between b stage texts) ++ alone (runAddons b ("after_" ++ stage.name)))
  before : ∃ js, Writes (runAddons b ("before_" ++ stage.name)) ()
    (alone (runAddons b ("before_" ++ stage.name))) js
  between : ∃ js, Writes (p.between b stage texts) () (alone (p.between b stage texts)) js
  after : ∃ js, Writes (runAddons b ("after_" ++ stage.name)) ()
    (alone (runAddons b ("after_" ++ stage.name))) js

theorem exists_parts (hk : stage.kind = .custom) (h : Writes (p.run b stage) () (p.nodes b stage) js) :
    ∃ texts, Parts p b stage texts := by
  have ha := steady_after (P := AnyNodes) (F := Unstructural) b stage
  have hs (texts : List String) : Steady AnyNodes Unstructural (do
      p.between b stage texts
      runAddons b ("after_" ++ stage.name)) := .bind steady_between fun _ => ha
  rw [run_eq hk] at h
  obtain ⟨_, _, _, -, h₁, e₁⟩ := Steady.of_bind (Steady.note (P := AnyNodes) (.running stage))
    (fun _ => .bind (steady_before b stage) fun _ => .bind (.read _) hs) h
  obtain ⟨_, _, _, hb, h₂, e₂⟩ := Steady.of_bind (steady_before (P := AnyNodes) b stage)
    (fun _ => .bind (.read _) hs) h₁
  obtain ⟨texts, _, _, hr, h₃, e₃⟩ := Steady.of_bind (Steady.read (P := AnyNodes) _) hs h₂
  obtain ⟨_, _, _, hm, hf, e₄⟩ := Steady.of_bind (steady_between (p := p)) (fun _ => ha) h₃
  obtain ⟨ht, hn⟩ := eq_of_writes_read hr
  rw [(writes_note _).alone_eq, List.nil_append] at e₁
  refine ⟨texts, ht, ?_, ⟨_, hb⟩, ⟨_, hm⟩, ⟨_, hf⟩⟩
  rw [e₁, e₂, e₃, e₄, hn, List.nil_append]

theorem Parts.kept_addons {P : List Node → Prop} [Kept P] (h : Parts p b stage texts) :
    P (alone (runAddons b ("before_" ++ stage.name))) ∧
      P (alone (runAddons b ("after_" ++ stage.name))) := by
  obtain ⟨_, hb⟩ := h.before
  obtain ⟨_, ha⟩ := h.after
  exact ⟨(steady_before (F := Unstructural) b stage).of_writes hb,
    (steady_after (F := Unstructural) b stage).of_writes ha⟩

end Profile

def Profile.test (text : String) : Command := { text := text, echo := true, timing := true }

/-- The tests that a profile records when the user gives none. -/
def Profile.ownTests : Profile → List String
  | .haskell => ["cabal configure --enable-tests && cabal build && cabal test"]
  | .android => ["./gradlew build connectedCheck", "gradle build connectedCheck", "mvn install -B",
      "ant debug installt test"]
  | .java => ["gradle check", "mvn test -B", "ant test"]
  | .base | .generic | .c | .cpp => []

/-- The tests whose results a build records: those of the user, or else those of its profile. -/
def Compiled.tests (c : Compiled) : List String :=
  match c.build.textsOf "script" with
  | .ok [] => c.profile.ownTests
  | .ok texts => texts
  | .error _ => []

namespace Compiler

variable {r : Resolution} {co : Option Entries} {c : Compiled}

/-- What is known of a build whose stages have all been run. -/
structure Completed (r : Resolution) (co : Option Entries) (c : Compiled) : Prop where
  status : r.status ≠ .serverError
  build : c.build = buildFor c.profile r co
  stages : ∀ stage, ∃ js, Writes (c.profile.run c.build stage) () (c.profile.nodes c.build stage) js
  exit : ∃ js, Writes (c.profile.onExit c.build) () (alone (c.profile.onExit c.build)) js
  body : c.body = r.status.nodes ++ Stage.all.flatMap (c.profile.nodes c.build)
  finish : c.finish = some (alone (c.profile.onExit c.build))

theorem completed_or_stopped (h : (build r co).1 = .ok c) :
    Completed r co c ∨ r.status = .serverError ∧ c.body = r.status.nodes ∧ c.finish = none := by
  rcases build_cases r co with ⟨e, he⟩ | ⟨p, ⟨f, _, hf⟩ | ⟨s, ho, hb⟩⟩
  · cases he.symm.trans h
  · cases hf.symm.trans h
  · cases hb.symm.trans h
    cases ho with
    | stopped hs => exact .inr ⟨hs, rfl, rfl⟩
    | completed hs hw he => exact .inl ⟨hs, rfl, hw, he, rfl, rfl⟩

theorem completed_of_finish (h : (build r co).1 = .ok c) (hf : c.finish.isSome) :
    Completed r co c := by
  rcases completed_or_stopped h with hc | ⟨-, -, hn⟩
  · exact hc
  · rw [hn] at hf
    cases hf

theorem Completed.parts (h : Completed r co c) {stage : Stage} {texts : List String}
    (hk : stage.kind = .custom) (ht : c.build.textsOf stage.name = .ok texts) :
    Profile.Parts c.profile c.build stage texts := by
  obtain ⟨js, hw⟩ := h.stages stage
  obtain ⟨texts', parts⟩ := Profile.exists_parts hk hw
  cases ht.symm.trans parts.reads
  exact parts

/-- A property of builds that can be evaluated shows that there is one. -/
theorem exists_of_any {P : Compiled → Bool} (h : (build r co).1.toOption.any P = true) :
    ∃ c, (build r co).1 = .ok c ∧ P c = true := by
  cases hb : (build r co).1 with
  | error e =>
    rw [hb] at h
    cases h
  | ok c =>
    rw [hb] at h
    exact ⟨c, rfl, h⟩

section Kept

variable {P : List Node → Prop} [Kept P]

theorem kept_statusNodes (status : Status) : P status.nodes := by
  cases status with
  | configured => exact Kept.nil
  | notFound => exact Kept.command _
  | serverError => exact Kept.append (Kept.command _) (Kept.command _)

theorem kept_ownTests (p : Profile) (b : Build)
    (ht : ∀ text ∈ p.ownTests, P (Profile.testNodes text false)) :
    P (alone (p.hook b (p.support b) .script)) := by
  have writes {x : Drafting Unit} {ns : List Node} {js : Journal} (hw : Writes x () ns js)
      (h : P ns) : P (alone x) := by
    rwa [hw.alone_eq]
  cases p with
  | base => exact writes (Writes.pure ()) Kept.nil
  | generic => exact writes (writes_command _ "") (Kept.command _)
  | c | cpp => exact writes (Profile.writes_testCommand _ true) (Kept.command _)
  | haskell =>
    exact writes (Profile.writes_testCommand _ false) (ht _ (List.mem_singleton_self _))
  | android =>
    have hw := Profile.writes_androidTests b (Profile.android.support b)
    exact writes hw (Kept.conditional (Profile.kept_testArms ht))
  | java =>
    have hw := Profile.writes_javaTests b (Profile.java.support b)
    exact writes hw (Kept.conditional (Profile.kept_testArms ht))

theorem Completed.kept_script (h : Completed r co c)
    (ht : ∀ text ∈ c.tests, P (Profile.testNodes text false)) :
    P (c.profile.nodes c.build .script) := by
  obtain ⟨_, hw⟩ := h.stages .script
  obtain ⟨texts, parts⟩ := Profile.exists_parts rfl hw
  obtain ⟨before, after⟩ := parts.kept_addons (P := P)
  rw [parts.nodes]
  refine Kept.append before (Kept.append ?_ after)
  have reads : c.build.textsOf "script" = .ok texts := parts.reads
  rw [Compiled.tests, reads] at ht
  cases texts with
  | nil => exact kept_ownTests c.profile c.build ht
  | cons text rest =>
    have user := Pipeline.writes_userCommands .script (text :: rest)
    rw [show c.profile.between c.build .script (text :: rest) =
      Pipeline.userCommands .script (text :: rest) from rfl, user.alone_eq]
    exact Kept.flatMap ht

/-- Both scripts of every build have the properties that are kept and hold of its tests. -/
theorem kept_of_build (h : (build r co).1 = .ok c)
    (ht : ∀ text ∈ c.tests, P (Profile.testNodes text false)) :
    P c.body ∧ ∀ exit ∈ c.finish, P exit := by
  rcases completed_or_stopped h with hc | ⟨-, hb, hf⟩
  · have hs (stage : Stage) : P (c.profile.nodes c.build stage) := by
      by_cases he : stage = .script
      · rw [he]
        exact hc.kept_script ht
      · obtain ⟨_, hw⟩ := hc.stages stage
        exact (c.profile.keeps_run (F := Unstructural) c.build fun h => (he h).elim).of_writes hw
    obtain ⟨js, he⟩ := hc.exit
    rw [hc.body, hc.finish]
    refine ⟨Kept.append (kept_statusNodes r.status) (Kept.flatMap fun stage _ => hs stage), ?_⟩
    rintro exit ⟨⟩
    exact (Profile.steady_onExit (F := Unstructural) c.profile c.build).of_writes he
  · rw [hb, hf]
    exact ⟨(kept_statusNodes r.status), nofun⟩

end Kept

end Compiler

end BuildScript

import BuildScript.Proofs.Stage.Concatenation
import BuildScript.Proofs.Stage.Confined

/-! # The order of the stages

A pipeline runs its stages one after the other, and each stage its activities: addons, the hook of
the profile or the commands of the user. Whatever the hooks do, the stages that a run starts are a
prefix of all of them, and a run that stops early has failed in an activity of the last of these.
-/

namespace BuildScript.Pipeline

open Shell Drafting Capability

/-- What a stage does after it has been announced. -/
inductive Activity
  | addons (name : String)
  | hook
  | commands (texts : List String)
  /-- The commands of the user cannot be read. -/
  | misuse (m : Setting.Misuse)

inductive Course (b : Build) (stage : Stage) : List Activity → Prop
  | builtin (hk : stage.kind = .builtin) : Course b stage [.hook]
  | misuse (hk : stage.kind = .custom) {m : Setting.Misuse}
      (ht : b.textsOf stage.name = .error m) :
    Course b stage [.addons ("before_" ++ stage.name), .misuse m]
  | hook (hk : stage.kind = .custom) {texts : List String} (ht : b.textsOf stage.name = .ok texts)
      (hn : texts = [] ∨ stage = .afterResult) :
    Course b stage [.addons ("before_" ++ stage.name), .hook, .addons ("after_" ++ stage.name)]
  | commands (hk : stage.kind = .custom) {texts : List String}
      (ht : b.textsOf stage.name = .ok texts) (hn : texts ≠ []) (hr : stage ≠ .afterResult) :
    Course b stage
      [.addons ("before_" ++ stage.name), .commands texts, .addons ("after_" ++ stage.name)]

variable {b : Build} {hooks : Hooks} {stage : Stage} {status : Status}

namespace Activity

def run (b : Build) (hooks : Hooks) (stage : Stage) : Activity → Drafting Unit
  | .addons name => runAddons b name
  | .hook => hooks stage
  | .commands texts => userCommands stage texts
  | .misuse m => throw (.misuse m)

instance confined [Confined (hooks stage)] (a : Activity) : Confined (a.run b hooks stage) := by
  cases a with
  | addons name => exact Confined.runAddons b name
  | hook => assumption
  | commands texts => exact .of_writes (writes_userCommands stage texts) rfl
  | misuse m => exact .throw (.misuse m)

/-- The commands of the user can be written to every builder that is not finished. -/
theorem ne_commands {a : Activity} {d d' : Draft} {f : Draft.Fault}
    (h : a.run b hooks stage d = (.error f, d')) (hd : d.builder.finished = false)
    (texts : List String) : a ≠ .commands texts := by
  rintro rfl
  cases (writes_userCommands stage texts d hd).symm.trans h

end Activity

theorem exists_course (b : Build) (stage : Stage) :
    ∃ course, Course b stage course ∧ ∀ hooks, runStage b hooks stage = (do
      note (.running stage)
      course.forM (Activity.run b hooks stage)) := by
  cases hk : stage.kind with
  | builtin =>
    refine ⟨_, .builtin hk, fun hooks => ?_⟩
    simp [runStage, hk, Activity.run]
  | custom =>
    cases ht : b.textsOf stage.name with
    | error m =>
      refine ⟨_, .misuse hk ht, fun hooks => ?_⟩
      simp [runStage, hk, runCustom, ht, Activity.run, Drafting.read]
    | ok texts =>
      by_cases hn : texts = [] ∨ stage = .afterResult
      · refine ⟨_, .hook hk ht hn, fun hooks => ?_⟩
        simp [runStage, hk, runCustom, ht, Activity.run, Drafting.read, hn]
      · obtain ⟨hn, hr⟩ := not_or.mp hn
        refine ⟨_, .commands hk ht hn hr, fun hooks => ?_⟩
        simp [runStage, hk, runCustom, ht, Activity.run, Drafting.read, hn, hr]

section Run

variable [∀ stage, Confined (hooks stage)] {d d' : Draft}

theorem runStage_starts (hd : d.builder.finished = false) :
    d.Starts (runStage b hooks stage d).2 [stage] := by
  obtain ⟨course, -, hr⟩ := exists_course b stage
  rw [hr hooks]
  have announced : d.Starts ⟨d.builder, d.journal ++ [.running stage]⟩ [stage] :=
    ⟨hd, [.running stage], rfl, rfl⟩
  have confined : Confined (course.forM (Activity.run b hooks stage)) := inferInstance
  exact announced.trans (confined.draft _ announced.unfinished)

/-- Stages that succeed one after the other are what has been started. -/
theorem forM_runStage_starts {stages : List Stage} (hd : d.builder.finished = false)
    (h : stages.forM (runStage b hooks) d = (.ok (), d')) : d.Starts d' stages := by
  induction stages generalizing d with
  | nil =>
    cases h
    exact ⟨hd, [], (List.append_nil _).symm, rfl⟩
  | cons stage rest ih =>
    have hs : d.Starts (runStage b hooks stage d).2 [stage] := runStage_starts hd
    change (runStage b hooks stage >>= fun _ => rest.forM (runStage b hooks)) d = _ at h
    cases hr : runStage b hooks stage d with
    | mk result e =>
      rw [hr] at hs
      cases result with
      | error f =>
        rw [bind_error hr] at h
        cases h
      | ok u =>
        rw [bind_ok hr] at h
        exact hs.trans (ih hs.unfinished h)

/-- The stages `earlier` have been run, and the next one has failed in an activity that is not the
commands of the user. -/
structure Stopped (b : Build) (hooks : Hooks) (d d' : Draft) (f : Draft.Fault)
    (earlier : List Stage) (stage : Stage) : Prop where
  order : ∃ later, Stage.all = earlier ++ stage :: later
  failed : ∃ before activity after e e', Course b stage (before ++ activity :: after) ∧
    earlier.forM (runStage b hooks) d = (.ok (), e) ∧
    (do note (.running stage); before.forM (Activity.run b hooks stage)) e = (.ok (), e') ∧
    activity.run b hooks stage e' = (.error f, d') ∧ ∀ texts, activity ≠ .commands texts

theorem exists_stopped {f : Draft.Fault} (hd : d.builder.finished = false)
    (h : Stage.all.forM (runStage b hooks) d = (.error f, d')) :
    ∃ earlier stage, Stopped b hooks d d' f earlier stage ∧ d.Starts d' (earlier ++ [stage]) := by
  obtain ⟨earlier, stage, later, e, ho, he, hf⟩ := cut_of_forM_error h
  have hs := forM_runStage_starts hd he
  have hl : e.Starts (runStage b hooks stage e).2 [stage] := runStage_starts hs.unfinished
  obtain ⟨course, hc, hr⟩ := exists_course b stage
  rw [hf] at hl
  rw [hr hooks] at hf
  have announced : note (.running stage) e =
      (.ok (), ⟨e.builder, e.journal ++ [.running stage]⟩) := rfl
  rw [bind_ok announced] at hf
  obtain ⟨before, activity, after, e', rfl, hb, ha⟩ := cut_of_forM_error hf
  have confined : Confined (before.forM (Activity.run b hooks stage)) := inferInstance
  have hu := (confined.draft ⟨e.builder, e.journal ++ [.running stage]⟩ hs.unfinished).unfinished
  rw [hb] at hu
  refine ⟨earlier, stage, ⟨⟨later, ho⟩, before, activity, after, e, e', hc, he, ?_, ha, ?_⟩,
    hs.trans hl⟩
  · exact (bind_ok announced).trans hb
  · exact activity.ne_commands ha hu

end Run

/-- How a run over the stages ends: refused for its status, with all stages completed, or with a
failure in the last stage that has been started. -/
inductive Ending (b : Build) (hooks : Hooks) (status : Status) (d d' : Draft) :
    Except Draft.Fault Bool → List Stage → Prop
  | refused (hs : status = .serverError) : Ending b hooks status d d' (.ok false) []
  | completed (hs : status ≠ .serverError) : Ending b hooks status d d' (.ok true) Stage.all
  | stopped (hs : status ≠ .serverError) {e : Draft} (hc : checkConfig status d = (.ok true, e))
      {f : Draft.Fault} {earlier : List Stage} {stage : Stage}
      (h : Stopped b hooks e d' f earlier stage) :
    Ending b hooks status d d' (.error f) (earlier ++ [stage])

theorem started_notices (status : Status) : Journal.started status.notices = [] := by
  cases status <;> rfl

theorem exists_ending (b : Build) (hooks : Hooks) [∀ stage, Confined (hooks stage)] {d : Draft}
    (hd : d.builder.finished = false) (status : Status) :
    ∃ stages, d.Starts (run b hooks status d).2 stages ∧
      Ending b hooks status d (run b hooks status d).2 (run b hooks status d).1 stages := by
  have hc := writes_checkConfig status d hd
  have hu : (d.builder.extend status.nodes).finished = false :=
    (Builder.finished_extend ..).trans hd
  have reported : d.Starts ⟨d.builder.extend status.nodes, d.journal ++ status.notices⟩ [] :=
    ⟨hu, _, rfl, started_notices status⟩
  rw [run, bind_ok hc]
  by_cases hs : status = .serverError
  · rw [if_neg (by simpa using hs)]
    exact ⟨[], reported, .refused hs⟩
  rw [if_pos (by simpa using hs)]
  rw [decide_eq_true hs] at hc
  cases hr : Stage.all.forM (runStage b hooks)
      ⟨d.builder.extend status.nodes, d.journal ++ status.notices⟩ with
  | mk result e =>
    cases result with
    | ok u =>
      rw [bind_ok hr]
      exact ⟨_, reported.trans (forM_runStage_starts hu hr), .completed hs⟩
    | error f =>
      rw [bind_error hr]
      obtain ⟨earlier, stage, stopped, started⟩ := exists_stopped hu hr
      exact ⟨_, reported.trans started, .stopped hs hc stopped⟩

theorem Ending.isPrefix {d d' : Draft} {result : Except Draft.Fault Bool} {stages : List Stage}
    (h : Ending b hooks status d d' result stages) : stages <+: Stage.all := by
  cases h with
  | refused => exact List.nil_prefix
  | completed => exact List.prefix_rfl
  | stopped _ _ hs =>
    obtain ⟨later, ho⟩ := hs.order
    exact ⟨later, by rw [ho, List.append_assoc, List.singleton_append]⟩

/-- Hooks made of builder steps, which may also run the hooks of a profile that they replace. -/
def stepHooks (p : Profile) (b : Build) (steps : Stage → List Step) : Hooks :=
  fun stage => Step.runAll (p.hook b (p.support b) stage) (steps stage)

/-- Each stage is announced and runs its course, whatever the hooks are. With hooks of any builder
steps a run notes the stages that it starts in their fixed order and none of them twice: all if it
is completed, none if it is refused for its status, and else those up to the one that has failed. -/
theorem stages_run_in_order (b : Build) (p : Profile) (steps : Stage → List Step)
    (status : Status) (j : Journal) :
    (∀ stage, ∃ course, Course b stage course ∧ ∀ hooks, runStage b hooks stage = (do
      note (.running stage)
      course.forM (Activity.run b hooks stage))) ∧
    ∃ result d, ∃ js : Journal, run b (stepHooks p b steps) status ⟨{}, j⟩ = (result, d) ∧
      d.journal = j ++ js ∧ js.started <+: Stage.all ∧ js.started.Nodup ∧
      Ending b (stepHooks p b steps) status ⟨{}, j⟩ d result js.started := by
  have confined (stage : Stage) : Confined (stepHooks p b steps stage) :=
    .runAll (Confined.hook b p stage) (steps stage)
  have unfinished : (⟨{}, j⟩ : Draft).builder.finished = false := rfl
  obtain ⟨stages, started, ending⟩ :=
    exists_ending b (stepHooks p b steps) unfinished status
  obtain ⟨js, hj, rfl⟩ := started.journal
  have order := ending.isPrefix
  have distinct : Stage.all.Nodup := by decide
  exact ⟨exists_course b, _, _, js, rfl, hj, order, distinct.sublist order.sublist, ending⟩

/-- A hook that gives up in a fold of its own leaves the later stages unstarted. -/
example :
    let b : Build := ⟨.mapping [(.text "setup", .text "true")], {}, []⟩
    let hooks := stepHooks .java b fun stage =>
      if stage = .setup then [.openFold "mine", .abandon] else [.inherited]
    (run b hooks .notFound {}).2.journal.started =
      [.configure, .checkout, .preSetup, .paranoidMode, .environment, .setup] := by
  decide +kernel

end BuildScript.Pipeline

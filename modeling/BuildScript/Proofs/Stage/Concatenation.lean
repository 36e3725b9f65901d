import BuildScript.Compiler
import BuildScript.Proofs.Stage.Hooks

/-! # Scripts as concatenations of stages

A stage of a profile that succeeds leaves every open block open and adds to the innermost one what
it writes by itself. So no build fails for its nesting, and the body of a build that is completed is
made of the nodes of its stages in their order.
-/

namespace BuildScript

open Shell Drafting

def Status.nodes : Status → List Node
  | .configured => []
  | .notFound => [.command {
      text := messageLine ("Could not find " ++ specFile ++ ", using standard configuration.")
        (some Color.red.name) }]
  | .serverError => [
      .command {
        text := messageLine ("Could not fetch " ++ specFile ++ ".") (some Color.red.name) },
      .command { text := "cibuild_terminate 2" }]

def Status.notices : Status → Journal
  | .configured => []
  | .notFound => [.specMissing]
  | .serverError => [.specUnreachable]

def Profile.nodes (p : Profile) (b : Build) (stage : Stage) : List Node := alone (p.run b stage)

namespace Pipeline

theorem writes_checkConfig (status : Status) :
    Writes (checkConfig status) (decide (status ≠ .serverError)) status.nodes status.notices := by
  cases status with
  | configured => exact Writes.pure true
  | notFound => exact (writes_note _).bind ((writes_command _ "").bind (Writes.pure true))
  | serverError =>
    exact (writes_note _).bind ((writes_command _ "").bind ((writes_command _ "").bind
      (Writes.pure false)))

section Run

variable {b : Build} {hooks : Hooks} {status : Status} {ns ms : List Node} {js ls : Journal}
  {f : Draft.Fault}

theorem run_of_stopped (hc : Writes (checkConfig status) false ns js) :
    Writes (run b hooks status) false ns js := by
  intro d hd
  rw [run, bind_ok (hc d hd)]
  rfl

theorem run_of_writes (hc : Writes (checkConfig status) true ns js)
    (hw : Writes (Stage.all.forM (runStage b hooks)) () ms ls) :
    Writes (run b hooks status) true (ns ++ ms) (js ++ ls) := by
  intro d hd
  rw [run, bind_ok (hc d hd), if_pos rfl, bind_ok (hw _ (by simpa using hd)), pure_apply,
    Builder.extend_extend, List.append_assoc]

theorem run_of_fails (hc : Writes (checkConfig status) true ns js)
    (hf : Fails (Stage.all.forM (runStage b hooks)) f ls) :
    Fails (run b hooks status) f (js ++ ls) := hc.bind_fails hf.bind

end Run

end Pipeline

namespace Compiler

variable {p : Profile} {b : Build} {hooks : Hooks} {status : Status} {ns ms : List Node}
  {js ls : Journal} {f : Draft.Fault}

theorem compose_of_fails (h : Fails (Pipeline.run b hooks status) f js) (j : Journal) :
    ∃ b', compose p b hooks status ⟨{}, j⟩ = (.error f, ⟨b', j ++ js⟩) := by
  obtain ⟨b', hb⟩ := h ⟨{}, j⟩ rfl
  exact ⟨b', bind_error hb⟩

/-- After the stages the builder holds their nodes and no open block, so that it can be finished. -/
theorem compose_of_writes {goes : Bool} (h : Writes (Pipeline.run b hooks status) goes ns js)
    (j : Journal) :
    compose p b hooks status ⟨{}, j⟩ =
      (if goes then do
        let exit ← aside do
          p.onExit b
          finish
        pure (ns, some exit)
      else pure (ns, none) : Drafting (Script × Option Script))
        ⟨⟨ns, [], true⟩, j ++ js ++ [.finished ns.length]⟩ := by
  unfold compose
  rw [bind_ok (h ⟨{}, j⟩ rfl)]
  exact bind_ok (finish_ok rfl)

theorem aside_of_writes (h : Writes (p.onExit b) () ms ls) (d : Draft) :
    aside (do p.onExit b; finish) d =
      (.ok ms, ⟨d.builder, d.journal ++ ls ++ [.finished ms.length]⟩) := by
  unfold aside
  rw [bind_ok (h _ rfl)]
  rfl

theorem aside_of_fails (h : Fails (p.onExit b) f ls) (d : Draft) :
    aside (do p.onExit b; finish) d = (.error f, ⟨d.builder, d.journal ++ ls⟩) := by
  obtain ⟨b', hb⟩ := h ⟨{}, d.journal⟩ rfl
  unfold aside
  rw [bind_error hb]

theorem compose_of_stopped (h : Writes (Pipeline.run b hooks status) false ns js) (j : Journal) :
    compose p b hooks status ⟨{}, j⟩ =
      (.ok (ns, none), ⟨⟨ns, [], true⟩, j ++ js ++ [.finished ns.length]⟩) := by
  rw [compose_of_writes h, if_neg Bool.false_ne_true, pure_apply]

theorem compose_of_completed (h : Writes (Pipeline.run b hooks status) true ns js)
    (he : Writes (p.onExit b) () ms ls) (j : Journal) :
    compose p b hooks status ⟨{}, j⟩ = (.ok (ns, some ms), ⟨⟨ns, [], true⟩,
      j ++ js ++ [.finished ns.length] ++ ls ++ [.finished ms.length]⟩) := by
  rw [compose_of_writes h, if_pos rfl, bind_ok (aside_of_writes he _), pure_apply]

theorem compose_of_exit_fails (h : Writes (Pipeline.run b hooks status) true ns js)
    (he : Fails (p.onExit b) f ls) (j : Journal) :
    compose p b hooks status ⟨{}, j⟩ = (.error f, ⟨⟨ns, [], true⟩,
      j ++ js ++ [.finished ns.length] ++ ls⟩) := by
  rw [compose_of_writes h, if_pos rfl, bind_error (aside_of_fails he _)]

/-- What becomes of the stages and the exit hook of a profile that fail with the faults `F` at
worst. -/
inductive Outcome (F : Draft.Fault → Prop) (p : Profile) (b : Build) (status : Status) :
    Except Draft.Fault (Script × Option Script) → Prop
  | failed {f : Draft.Fault} (hf : F f) : Outcome F p b status (.error f)
  | stopped (hs : status = .serverError) : Outcome F p b status (.ok (status.nodes, none))
  | completed (hs : status ≠ .serverError)
      (hw : ∀ stage, ∃ js, Writes (p.run b stage) () (p.nodes b stage) js)
      (he : ∃ js, Writes (p.onExit b) () (alone (p.onExit b)) js) : Outcome F p b status
      (.ok (status.nodes ++ Stage.all.flatMap (p.nodes b), some (alone (p.onExit b))))

theorem compose_outcome {F : Draft.Fault → Prop} (p : Profile) (b : Build) [p.Readable F b]
    (status : Status) (j : Journal) :
    Outcome F p b status (compose p b (p.hook b (p.support b)) status ⟨{}, j⟩).1 := by
  have hc := Pipeline.writes_checkConfig status
  by_cases hs : status = .serverError
  · rw [decide_eq_false (not_not_intro hs)] at hc
    rw [compose_of_stopped (Pipeline.run_of_stopped hc)]
    exact .stopped hs
  rw [decide_eq_true hs] at hc
  have hk (stage : Stage) : Steady AnyNodes F (p.run b stage) := p.keeps_run b fun _ _ => trivial
  rcases Steady.forM_writes_or_fails (l := Stage.all) fun stage _ => hk stage with
    ⟨ha, ls, hw⟩ | ⟨f, ls, hf, hn⟩
  · have hr := Pipeline.run_of_writes hc hw
    cases Profile.steady_onExit (P := AnyNodes) (F := F) p b with
    | writes he =>
      rw [← he.alone_eq] at he
      rw [compose_of_completed hr he]
      exact .completed hs (fun stage => ha stage stage.mem_all) ⟨_, he⟩
    | fails he hn =>
      rw [compose_of_exit_fails hr he]
      exact .failed hn
  · obtain ⟨b', hb⟩ := compose_of_fails (p := p) (Pipeline.run_of_fails hc hf) j
    rw [hb]
    exact .failed hn

def buildFor (p : Profile) (r : Resolution) (co : Option Entries) : Build :=
  ⟨p.mergedConfig r.payload.config, r.payload, co.getD r.payload.cacheOptions⟩

/-- The scripts that a profile composes for a resolved payload, and the draft that is left. -/
def composed (p : Profile) (r : Resolution) (co : Option Entries) :
    Except Draft.Fault (Script × Option Script) × Draft :=
  compose p (buildFor p r co) (p.hook (buildFor p r co) (p.support (buildFor p r co))) r.status
    ⟨{}, [.compiling p.name r.status]⟩

theorem composed_of_stopped {p : Profile} {r : Resolution} (hs : r.status = .serverError)
    (co : Option Entries) : (composed p r co).1 = .ok (r.status.nodes, none) := by
  have hc := Pipeline.writes_checkConfig r.status
  rw [decide_eq_false (not_not_intro hs)] at hc
  rw [composed, compose_of_stopped (Pipeline.run_of_stopped hc)]

theorem composed_of_writes {p : Profile} {r : Resolution} {co : Option Entries}
    (hs : r.status ≠ .serverError)
    (hw : ∀ stage, ∃ js, Writes (p.run (buildFor p r co) stage) ()
      (p.nodes (buildFor p r co) stage) js)
    (he : ∃ js, Writes (p.onExit (buildFor p r co)) () (alone (p.onExit (buildFor p r co))) js) :
    (composed p r co).1 = .ok (r.status.nodes ++ Stage.all.flatMap (p.nodes (buildFor p r co)),
      some (alone (p.onExit (buildFor p r co)))) := by
  have hc := Pipeline.writes_checkConfig r.status
  rw [decide_eq_true hs] at hc
  obtain ⟨ls, hl⟩ := Writes.forM_alone (l := Stage.all) fun stage _ => hw stage
  obtain ⟨js, he⟩ := he
  rw [composed, compose_of_completed (Pipeline.run_of_writes hc hl) he]
  rfl

theorem build_of_language {p : Profile} {r : Resolution}
    (h : Registry.standard.get (Entries.get r.payload.config "language") = .ok p)
    (co : Option Entries) :
    build r co = (((composed p r co).1.map fun s =>
      ⟨p, buildFor p r co, r.status, s.1, s.2⟩).mapError .draft, (composed p r co).2.journal) := by
  unfold build
  rw [h]
  rfl

theorem build_of_composed {p : Profile} {r : Resolution} {co : Option Entries}
    {scripts : Script × Option Script}
    (h : Registry.standard.get (Entries.get r.payload.config "language") = .ok p)
    (hc : (composed p r co).1 = .ok scripts) :
    (build r co).1 = .ok ⟨p, buildFor p r co, r.status, scripts.1, scripts.2⟩ := by
  rw [build_of_language h, hc]
  rfl

theorem build_of_unknown {r : Resolution} {e : Registry.Unknown}
    (h : Registry.standard.get (Entries.get r.payload.config "language") = .error e)
    (co : Option Entries) : build r co = (.error (.unknownLanguage e), []) := by
  unfold build
  rw [h]

theorem exists_composed {r : Resolution} {co : Option Entries} {c : Compiled}
    (h : (build r co).1 = .ok c) :
    ∃ p s, Registry.standard.get (Entries.get r.payload.config "language") = .ok p ∧
      (composed p r co).1 = .ok s ∧ c = ⟨p, buildFor p r co, r.status, s.1, s.2⟩ := by
  cases hl : Registry.standard.get (Entries.get r.payload.config "language") with
  | error e =>
    rw [build_of_unknown hl] at h
    cases h
  | ok p =>
    rw [build_of_language hl] at h
    cases hc : (composed p r co).1 with
    | error f =>
      rw [hc] at h
      cases h
    | ok s =>
      rw [hc] at h
      exact ⟨p, s, rfl, hc, (Except.ok.inj h).symm⟩

/-- A build fails for its language or in its profile, or it holds what the profile composed. -/
theorem build_cases (r : Resolution) (co : Option Entries) :
    (∃ e, (build r co).1 = .error (.unknownLanguage e)) ∨
    ∃ p, (∃ f, Outcome IsMisuse p (buildFor p r co) r.status (.error f) ∧
        (build r co).1 = .error (.draft f)) ∨
      ∃ s, Outcome IsMisuse p (buildFor p r co) r.status (.ok s) ∧
        (build r co).1 = .ok ⟨p, buildFor p r co, r.status, s.1, s.2⟩ := by
  cases hl : Registry.standard.get (Entries.get r.payload.config "language") with
  | error e => exact .inl ⟨e, by rw [build_of_unknown hl]⟩
  | ok p =>
    have ho := compose_outcome (F := IsMisuse) p (buildFor p r co) r.status
      [.compiling p.name r.status]
    rw [build_of_language hl]
    cases hc : (composed p r co).1 with
    | error f => exact .inr ⟨p, .inl ⟨f, hc ▸ ho, rfl⟩⟩
    | ok s => exact .inr ⟨p, .inr ⟨s, hc ▸ ho, rfl⟩⟩

theorem fault_of_build {r : Resolution} {co : Option Entries} {f : Fault}
    (h : (build r co).1 = .error f) :
    (∃ e, f = .unknownLanguage e) ∨ ∃ m, f = .draft (.misuse m) := by
  rcases build_cases r co with ⟨e, he⟩ | ⟨_, ⟨g, ho, hg⟩ | ⟨s, _, hs⟩⟩
  · cases h.symm.trans he
    exact .inl ⟨e, rfl⟩
  · cases h.symm.trans hg
    cases ho with
    | failed hm =>
      obtain ⟨m, rfl⟩ := hm
      exact .inr ⟨m, rfl⟩
  · cases h.symm.trans hs

/-- A stage that succeeds somewhere adds to the innermost open block what it writes by itself. No
build fails for its nesting, and a completed one is the report of its status and its stages. -/
theorem stages_concatenate :
    (∀ (p : Profile) (b : Build) (stage : Stage) (d d' : Draft), d.builder.finished = false →
      p.run b stage d = (.ok (), d') →
        d'.builder.kinds = d.builder.kinds ∧
        d'.builder = d.builder.extend (p.nodes b stage) ∧
        ∃ e, p.run b stage {} = (.ok (), e) ∧ e.builder = { root := p.nodes b stage }) ∧
    (∀ r co f, (build r co).1 ≠ .error (.draft (.structural f))) ∧
    ∀ r co c, (build r co).1 = .ok c → c.finish.isSome →
      c.body = r.status.nodes ++ Stage.all.flatMap (c.profile.nodes c.build) := by
  refine ⟨?stage, ?fault, ?body⟩
  case stage =>
    intro p b stage d d' hd h
    obtain ⟨js, hw, rfl⟩ := (p.steady_run b stage).writes_of_ok hd h
    exact ⟨Builder.kinds_extend _ _, rfl, _, hw.apply_empty, rfl⟩
  case fault =>
    intro r co f h
    rcases fault_of_build h with ⟨e, he⟩ | ⟨m, hm⟩
    · cases he
    · cases hm
  case body =>
    intro r co c h hf
    rcases build_cases r co with ⟨e, he⟩ | ⟨p, ⟨g, _, hg⟩ | ⟨s, ho, hs⟩⟩
    · cases he.symm.trans h
    · cases hg.symm.trans h
    · cases hs.symm.trans h
      cases ho with
      | stopped => cases hf
      | completed => rfl

/-- A stage with a conditional of its own, run while a fold is open. -/
theorem stages_concatenate_in_fold :
    ∃ d', Profile.java.run ⟨.mapping [], {}, []⟩ .script
        ⟨⟨[], [.fold "outer" [.raw "true"]], false⟩, []⟩ = (.ok (), d') ∧
      d'.builder.kinds = [.script, .fold] ∧
      d'.builder.frames = [.fold "outer"
        (.raw "true" :: Profile.java.nodes ⟨.mapping [], {}, []⟩ .script)] := by
  obtain ⟨hk, hb, -⟩ := stages_concatenate.1 .java ⟨.mapping [], {}, []⟩ .script
    ⟨⟨[], [.fold "outer" [.raw "true"]], false⟩, []⟩ _ rfl rfl
  refine ⟨_, rfl, hk, ?_⟩
  rw [hb]
  rfl

end Compiler

end BuildScript

import BuildScript.Proofs.Shell.Path
import BuildScript.Proofs.Stage.Completed

/-! # Verdicts on the recorded result

The commands after the result depend on what the tests have recorded. A result is recorded before
them on every path when the user gives tests or the profile records its own; otherwise it is
recorded on none, and a build that passes runs the commands for a failure.
-/

namespace BuildScript

open Shell Drafting Capability

def Shell.Node.isRecord : Node → Bool
  | .raw text => text == "cibuild_result $?"
  | _ => false

/-- Every path through the nodes has a record on it, or none has. -/
def Shell.Records (always : Bool) (ns : List Node) : Prop :=
  ∀ leaves, Path ns leaves → leaves.any Node.isRecord = always

namespace Shell.Records

variable {x y : Bool} {n : Node} {ns ms : List Node} {branches : List Branch}

theorem nil : Records false [] := by
  rintro _ ⟨⟩
  rfl

theorem append (hn : Records x ns) (hm : Records y ms) : Records (x || y) (ns ++ ms) := by
  intro leaves h
  obtain ⟨first, second, rfl, hf, hs⟩ := Path.append_iff.mp h
  rw [List.any_append, hn first hf, hm second hs]

theorem of_way (h : ∀ leaves, Way n leaves → leaves.any Node.isRecord = x) : Records x [n] :=
  fun leaves hl => h leaves (Path.singleton_iff.mp hl)

theorem raw (text : String) : Records (text == "cibuild_result $?") [.raw text] := by
  refine of_way ?_
  rintro _ ⟨⟩
  exact Bool.or_false _

theorem conditional (h : ∀ arm ∈ branches, Records x arm.body)
    (he : ∃ arm ∈ branches, arm.test = none) : Records x [.conditional branches] := by
  refine of_way fun leaves hw => ?_
  cases hw with
  | arm ha hl => exact h _ ha leaves hl
  | past hn =>
    obtain ⟨arm, ha, ht⟩ := he
    exact (hn arm ha ht).elim

instance : Kept (Records false) where
  nil := nil
  append hn hm := append hn hm
  command c := by
    refine of_way ?_
    rintro _ ⟨⟩
    rfl
  assign e := by
    refine of_way ?_
    rintro _ ⟨⟩
    rfl
  raw h := beq_eq_false_iff_ne.mpr h ▸ raw _
  fold label _ h := by
    refine of_way fun leaves hw => ?_
    cases hw with
    | fold _ hl => exact h leaves hl
  conditional h := by
    refine of_way fun leaves hw => ?_
    cases hw with
    | arm ha hl => exact h _ ha leaves hl
    | past => rfl

end Shell.Records

namespace Profile

/-- Whether the tests that a profile runs by itself are recorded. Those that stop the build when
they fail are not. -/
def recordsTests : Profile → Bool
  | .haskell | .android | .java => true
  | .base | .generic | .c | .cpp => false

theorem records_testNodes (text : String) : Records true (testNodes text false) :=
  Records.append (x := false) (Kept.command _) (Records.raw _)

theorem records_testArms (choices : List (String × String)) (otherwise : String) :
    Records true [.conditional (testArms choices otherwise)] :=
  .conditional (kept_testArms fun text _ => records_testNodes text)
    ⟨_, List.mem_append_right _ (List.mem_singleton_self _), rfl⟩

theorem records_hook (p : Profile) (b : Build) (s : Support) :
    Records p.recordsTests (alone (p.hook b s .script)) := by
  have writes {x : Drafting Unit} {always : Bool} {ns : List Node} {js : Journal}
      (hw : Writes x () ns js) (h : Records always ns) : Records always (alone x) := by
    rwa [hw.alone_eq]
  have command (c : Command) : Records false [.command c] := Kept.command c
  cases p with
  | base => exact writes (Writes.pure ()) .nil
  | generic => exact writes (writes_command _ "") (command _)
  | c | cpp => exact writes (writes_testCommand _ true) (command _)
  | haskell => exact writes (writes_testCommand _ false) (records_testNodes _)
  | android => exact writes (writes_androidTests b s) (records_testArms _ _)
  | java => exact writes (writes_javaTests b s) (records_testArms _ _)

theorem records_userTests (texts : List String) :
    Records (!texts.isEmpty) (texts.flatMap fun text => testNodes text false) := by
  induction texts with
  | nil => exact .nil
  | cons text rest ih => exact (records_testNodes text).append ih

/-- The tests of the user are recorded; without them it depends on the profile. -/
theorem records_between (p : Profile) (b : Build) (texts : List String) :
    Records (!texts.isEmpty || p.recordsTests) (alone (p.between b .script texts)) := by
  cases texts with
  | nil => exact records_hook p b _
  | cons text rest =>
    have hw := Pipeline.writes_userCommands .script (text :: rest)
    rw [show p.between b .script (text :: rest) = Pipeline.userCommands .script (text :: rest)
      from rfl, hw.alone_eq]
    exact records_userTests (text :: rest)

end Profile

namespace Compiler

variable {r : Resolution} {co : Option Entries} {c : Compiled} {texts success failure : List String}

theorem Completed.records_of_ne (h : Completed r co c) {stage : Stage} (hs : stage ≠ .script) :
    Records false (c.profile.nodes c.build stage) := by
  obtain ⟨js, hw⟩ := h.stages stage
  exact (c.profile.keeps_run (F := Unstructural) c.build fun he => (hs he).elim).of_writes hw

theorem Completed.records_script (h : Completed r co c) (ht : c.build.textsOf "script" = .ok texts) :
    Records (!texts.isEmpty || c.profile.recordsTests) (c.profile.nodes c.build .script) := by
  have parts : Profile.Parts c.profile c.build .script texts := h.parts rfl ht
  obtain ⟨hb, ha⟩ := parts.kept_addons (P := Records false)
  have hn := hb.append ((c.profile.records_between c.build texts).append ha)
  rwa [← parts.nodes, Bool.false_or, Bool.or_false] at hn

def preparation : List Stage := Stage.all.takeWhile fun stage => stage ≠ .script

/-- The nodes that stand in a completed build before the conditional on the recorded result. -/
def beforeVerdict (status : Status) (p : Profile) (b : Build) : List Node :=
  status.nodes ++ (preparation.flatMap (p.nodes b) ++
    (p.nodes b .script ++ alone (runAddons b "before_after_result")))

/-- On every path to the conditional a result is recorded, or on none. -/
theorem Completed.records_beforeVerdict (h : Completed r co c)
    (ht : c.build.textsOf "script" = .ok texts) :
    Records (!texts.isEmpty || c.profile.recordsTests)
      (beforeVerdict r.status c.profile c.build) := by
  have hp : Records false (preparation.flatMap (c.profile.nodes c.build)) := by
    refine Kept.flatMap fun stage hs => h.records_of_ne ?_
    rintro rfl
    exact absurd hs (by decide)
  obtain ⟨_, hw⟩ := h.stages .afterResult
  obtain ⟨_, parts⟩ := Profile.exists_parts rfl hw
  have ha := (parts.kept_addons (P := Records false)).1
  have hn := (kept_statusNodes (P := Records false) r.status).append
    (hp.append ((h.records_script ht).append ha))
  rwa [Bool.false_or, Bool.false_or, Bool.or_false] at hn

theorem Completed.body_eq (h : Completed r co c) (hs : c.build.textsOf "after_success" = .ok success)
    (hf : c.build.textsOf "after_failure" = .ok failure) (hn : success ≠ [] ∨ failure ≠ []) :
    ∃ after, c.body = beforeVerdict r.status c.profile c.build ++
      .conditional (Profile.verdict success failure) :: after := by
  obtain ⟨_, hw⟩ := h.stages .afterResult
  obtain ⟨texts, parts⟩ := Profile.exists_parts rfl hw
  have hv : alone (c.profile.between c.build .afterResult texts) =
      [.conditional (Profile.verdict success failure)] := by
    rw [Profile.between_afterResult, (Profile.writes_afterResult hs hf).alone_eq,
      Profile.resultNodes, if_neg]
    rwa [Bool.and_eq_true, List.isEmpty_iff, List.isEmpty_iff, Classical.not_and_iff_not_or_not]
  have ha : Stage.all = preparation ++ [.script, .afterResult, .afterScript] := rfl
  refine ⟨alone (runAddons c.build "after_after_result") ++ c.profile.nodes c.build .afterScript, ?_⟩
  rw [h.body, ha, List.flatMap_append, List.flatMap_cons, List.flatMap_cons, List.flatMap_singleton,
    parts.nodes, hv]
  simp [beforeVerdict, Stage.name]

/-! ## Runs -/

/-- The recorded result after a further status: at first there is none, then it tells whether any
status has been other than zero. -/
def record (result : Option Nat) (status : Nat) : Option Nat :=
  some (result.getD 0 ||| if status = 0 then 0 else 1)

/-- The result that is recorded along a path, each of whose statements comes with the status that it
finds. -/
def recorded (run : List (Node × Nat)) : Option Nat :=
  run.foldl (fun result step => if step.1.isRecord then record result step.2 else result) none

/-- Whether a test on the recorded result holds. One that is not there is not equal to zero. -/
def holds (result : Option Nat) (test : String) : Bool :=
  (test == "[[ $CIBUILD_TEST_RESULT = 0 ]]" && result == some 0) ||
    (test == "[[ $CIBUILD_TEST_RESULT != 0 ]]" && result != some 0)

def chosen (result : Option Nat) : List Branch → List Node
  | [] => []
  | ⟨none, body⟩ :: _ => body
  | ⟨some test, body⟩ :: rest => if holds result test then body else chosen result rest

theorem recorded_of_passing {run : List (Node × Nat)} (hp : ∀ step ∈ run, step.2 = 0) :
    recorded run = if (run.map Prod.fst).any Node.isRecord then some 0 else none := by
  -- from either value that a passing run can have reached
  have from_passed : ∀ result, result = none ∨ result = some 0 →
      run.foldl (fun result step => if step.1.isRecord then record result step.2 else result) result =
        if (run.map Prod.fst).any Node.isRecord then some 0 else result := by
    induction run with
    | nil => exact fun _ _ => rfl
    | cons step rest ih =>
      obtain ⟨hs, hr⟩ := List.forall_mem_cons.mp hp
      intro result h
      rw [List.foldl_cons, List.map_cons, List.any_cons]
      cases step.1.isRecord with
      | false => rw [if_neg Bool.false_ne_true, ih hr result h, Bool.false_or]
      | true =>
        have hz : record result step.2 = some 0 := by
          rw [hs]
          rcases h with rfl | rfl <;> rfl
        rw [if_pos rfl, hz, ih hr _ (.inr rfl), Bool.true_or, if_pos rfl, ite_self]
  exact from_passed none (.inl rfl)

theorem chosen_verdict (success failure : List String) (passed : Bool) :
    chosen (if passed then some 0 else none) (Profile.verdict success failure) =
      (if passed then success else failure).flatMap Profile.timedNodes := by
  cases success <;> cases failure <;> cases passed <;> rfl

/-- Before the commands that depend on the result, one is recorded on every path if the user gives
tests or the profile records its own, and otherwise on none. A run in which everything passes takes
the commands for a success in the first case, and those for a failure in the second. -/
theorem verdict_needs_record (h : (build r co).1 = .ok c) (hc : c.finish.isSome)
    (hs : c.build.textsOf "after_success" = .ok success)
    (hf : c.build.textsOf "after_failure" = .ok failure) (hn : success ≠ [] ∨ failure ≠ [])
    (ht : c.build.textsOf "script" = .ok texts) :
    (∃ after, c.body = beforeVerdict r.status c.profile c.build ++
        .conditional (Profile.verdict success failure) :: after) ∧
      (∃ leaves, Path (beforeVerdict r.status c.profile c.build) leaves) ∧
      ∀ run, Path (beforeVerdict r.status c.profile c.build) (run.map Prod.fst) →
        ((run.map Prod.fst).any Node.isRecord ↔ texts ≠ [] ∨ c.profile.recordsTests) ∧
        ((∀ step ∈ run, step.2 = 0) →
          chosen (recorded run) (Profile.verdict success failure) =
            (if texts ≠ [] ∨ c.profile.recordsTests then success else failure).flatMap
              Profile.timedNodes) := by
  have done := completed_of_finish h hc
  refine ⟨done.body_eq hs hf hn, exists_path _, fun run hr => ?_⟩
  have he : (run.map Prod.fst).any Node.isRecord = (!texts.isEmpty || c.profile.recordsTests) :=
    done.records_beforeVerdict ht _ hr
  have hi : (!texts.isEmpty || c.profile.recordsTests) = true ↔
      texts ≠ [] ∨ c.profile.recordsTests = true := by simp
  refine ⟨by rw [he, hi], fun hp => ?_⟩
  rw [recorded_of_passing hp, chosen_verdict, he]
  simp only [hi]

/-- A spec with commands for both outcomes of its tests, and no tests of its own. -/
def outcomeSpec (language : String) : Resolution where
  payload := { config := [
    (.text "language", .text language),
    (.text "after_success", .text "echo passed"),
    (.text "after_failure", .text "echo failed")] }
  status := .configured

/-- A profile that records its tests. -/
theorem verdict_needs_record_haskell :
    ∃ c, (build (outcomeSpec "haskell") none).1 = .ok c ∧
      ∀ run, Path (beforeVerdict .configured c.profile c.build) (run.map Prod.fst) →
        (∀ step ∈ run, step.2 = 0) →
          chosen (recorded run) (Profile.verdict ["echo passed"] ["echo failed"]) =
            Profile.timedNodes "echo passed" := by
  obtain ⟨c, hb, hp⟩ := exists_of_any (P := fun c => c.profile = .haskell && c.finish.isSome)
    (show (build (outcomeSpec "haskell") none).1.toOption.any _ = true by decide +kernel)
  rw [Bool.and_eq_true, decide_eq_true_iff] at hp
  have hc : c.build = buildFor .haskell (outcomeSpec "haskell") none :=
    hp.1 ▸ (completed_of_finish hb hp.2).build
  have hs : c.build.textsOf "after_success" = .ok ["echo passed"] := by rw [hc]; rfl
  have hf : c.build.textsOf "after_failure" = .ok ["echo failed"] := by rw [hc]; rfl
  have ht : c.build.textsOf "script" = .ok [] := by rw [hc]; rfl
  obtain ⟨-, -, h⟩ := verdict_needs_record hb hp.2 hs hf (.inl (List.cons_ne_nil _ _)) ht
  refine ⟨c, hb, fun run hr hz => ?_⟩
  rw [(h run hr).2 hz, hp.1]
  rfl

/-- The tests of a profile that does not record them have passed, nothing is recorded, and the
commands for a failure run. -/
theorem passing_tests_judged_failed :
    ∃ c after leaves, (build (outcomeSpec "c") none).1 = .ok c ∧ c.finish.isSome ∧
      c.body = beforeVerdict .configured c.profile c.build ++
        .conditional (Profile.verdict ["echo passed"] ["echo failed"]) :: after ∧
      Path (beforeVerdict .configured c.profile c.build) leaves ∧
      leaves.any Node.isRecord = false ∧
      chosen (recorded (leaves.map fun leaf => (leaf, 0)))
          (Profile.verdict ["echo passed"] ["echo failed"]) =
        Profile.timedNodes "echo failed" := by
  obtain ⟨c, hb, hp⟩ := exists_of_any (P := fun c => c.profile = .c && c.finish.isSome)
    (show (build (outcomeSpec "c") none).1.toOption.any _ = true by decide +kernel)
  rw [Bool.and_eq_true, decide_eq_true_iff] at hp
  have done := completed_of_finish hb hp.2
  have hc : c.build = buildFor .c (outcomeSpec "c") none := hp.1 ▸ done.build
  have hs : c.build.textsOf "after_success" = .ok ["echo passed"] := by rw [hc]; rfl
  have hf : c.build.textsOf "after_failure" = .ok ["echo failed"] := by rw [hc]; rfl
  have ht : c.build.textsOf "script" = .ok [] := by rw [hc]; rfl
  obtain ⟨after, he⟩ := done.body_eq hs hf (.inl (List.cons_ne_nil _ _))
  obtain ⟨leaves, hl⟩ := exists_path (beforeVerdict .configured c.profile c.build)
  have hn : leaves.any Node.isRecord = false := by
    rw [done.records_beforeVerdict ht leaves hl, hp.1]
    rfl
  have hr : recorded (leaves.map fun leaf => (leaf, 0)) = none := by
    rw [recorded_of_passing (List.forall_mem_map.mpr fun _ _ => rfl), List.map_map,
      show Prod.fst ∘ (fun leaf => (leaf, 0)) = (id : Node → Node) from rfl, List.map_id, hn]
    rfl
  refine ⟨c, after, leaves, hb, hp.2, he, hl, hn, ?_⟩
  rw [hr]
  rfl

end Compiler

end BuildScript

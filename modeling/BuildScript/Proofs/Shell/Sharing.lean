import BuildScript.Proofs.Shell.Call

/-! # Shared stacks

Builders act on each other only through a stack that they share. A call to a named builder is a call
to its stack: what it answers and what it leaves there depend on that stack alone, and no other
stack is touched. So the builders of one stack do together what a single builder does that gets all
their calls.
-/

namespace BuildScript.Shell

/-! ## Calls on one stack -/

def Step.answered : Step → Option Node
  | .command c color _ =>
    match colorOf color with
    | .error _ => none
    | .ok color => some (.command { c with color := color })
  | .assign key value echo secure => some (.assign ⟨key, value.written .loose, echo, secure⟩)
  | .message text color => some (.command { text := messageLine text color })
  | .newline => some (.raw "echo")
  | .raw text => some (.raw text)
  | _ => none

theorem Step.run_eq (s : Step) :
    s.run (pure ()) = (do Call.runAll s.calls; pure s.answered) := by
  cases s with
  | command c color label =>
    cases h : colorOf color with
    | error e => simp [run, calls, answered, h, Call.run]
    | ok color => simp [run, calls, answered, h, runAll_commandCalls]
  | conditional test body =>
    simp [run, calls, answered, block, Call.run, Drafting.conditional, runAll_eq body]
  | fold label body =>
    simp [run, calls, answered, block, Call.run, Drafting.fold, runAll_eq body]
  | assign | message | newline | raw =>
    simp [run, calls, answered, leaf, Call.run, Drafting.assign, Drafting.raw]
  | openConditional | elseIf | orElse | openFold | close =>
    simp [run, calls, answered, block, Call.run]
  | abandon => simp [run, calls, Call.run]
  | inherited => simp [run, calls, answered, block]

/-- A builder after calls that are issued up to the first that fails, and whether one has failed. -/
def Call.effects (b : Builder) : List Call → Except Draft.Fault Unit × Builder
  | [] => (.ok (), b)
  | call :: rest =>
    match effect b call with
    | .error f => (.error f, b)
    | .ok b => effects b rest

theorem Call.runAll_apply (calls : List Call) (d : Draft) :
    runAll calls d = ((effects d.builder calls).1, ⟨(effects d.builder calls).2, d.journal⟩) := by
  induction calls generalizing d with
  | nil => rfl
  | cons call rest ih =>
    rw [runAll_cons, effects]
    cases he : effect d.builder call with
    | error f => rw [Drafting.bind_error (by rw [run_apply, he])]
    | ok b => rw [Drafting.bind_ok (run_of_effect_ok he), ih]

theorem Step.run_apply (s : Step) (d : Draft) :
    s.run (pure ()) d = ((Call.effects d.builder s.calls).1.map fun _ => s.answered,
      ⟨(Call.effects d.builder s.calls).2, d.journal⟩) := by
  have h := Call.runAll_apply s.calls d
  rw [run_eq]
  cases hr : (Call.effects d.builder s.calls).1 with
  | error f =>
    rw [hr] at h
    rw [Drafting.bind_error h]
    rfl
  | ok u =>
    rw [hr] at h
    rw [Drafting.bind_ok h]
    rfl

namespace Session

/-- The requests that go to the stack of a builder. The others bring a builder into being, or look
at a script that was given earlier. -/
def Request.isCall : Request → Bool
  | .step _ | .finish | .current => true
  | .create _ | .render _ | .dump | .tree => false

/-- What can be seen when a request has been made: the answer, the open blocks, and the script if
the builder was finished. -/
structure Report where
  answer : Except Draft.Fault Answer
  kinds : List BlockKind
  depth : Nat
  script : Option Script

/-- What a stack answers to a call, and the stack after it. -/
def Request.onStack (b : Builder) : Request → Except Draft.Fault Answer × Option Script × Builder
  | .step s =>
    ((Call.effects b s.calls).1.map fun _ => s.answered.elim .nothing .node, none,
      (Call.effects b s.calls).2)
  | .finish =>
    match b.finish with
    | .ok (script, b) => (.ok (.count script.length), some script, b)
    | .error e => (.error (.structural e), none, b)
  | .current => (b.current.map .kind |>.mapError .structural, none, b)
  | .create _ | .render _ | .dump | .tree => (.ok .nothing, none, b)

def Report.ofStack : Except Draft.Fault Answer × Option Script × Builder → Report
  | (answer, script, b) => ⟨answer, b.kinds, b.depth, script⟩

def Report.along (b : Builder) : List Request → List Report
  | [] => []
  | q :: rest => ofStack (q.onStack b) :: along (q.onStack b).2.2 rest

def Request.given (answer : Except Draft.Fault Answer) (kept : Option Script) :
    Request → Option Script
  | .finish => answer.toOption.bind fun _ => kept
  | _ => none

def report (s : Session) (name : String) (q : Request) : Report where
  answer := (s.answer name q).1
  kinds := ((s.answer name q).2.builderOf name).kinds
  depth := ((s.answer name q).2.builderOf name).depth
  script := q.given (s.answer name q).1 ((s.answer name q).2.scriptOf name)

/-- A request that has been made: the stack of the builder it was made of, and what was seen. -/
structure Event where
  stack : Nat
  request : Request
  report : Report

def trace (s : Session) : List (String × Request) → List Event
  | [] => []
  | (name, q) :: rest => ⟨s.stackOf name, q, s.report name q⟩ :: trace (s.answer name q).2 rest

def after (s : Session) (requests : List (String × Request)) : Session :=
  requests.foldl (fun s e => (s.answer e.1 e.2).2) s

/-! ## Calls on a session -/

/-- The stack with an index: one on which nothing has been written, before it comes into being. -/
def stack (s : Session) (i : Nat) : Builder := (s.builders[i]?).getD {}

theorem set_getElem?_getD (builders : List Builder) (i : Nat) :
    builders.set i ((builders[i]?).getD {}) = builders := by
  cases h : builders[i]? with
  | none => exact List.set_eq_of_length_le (List.getElem?_eq_none_iff.mp h)
  | some b =>
    obtain ⟨hi, rfl⟩ := List.getElem?_eq_some_iff.mp h
    exact List.set_getElem_self hi

variable {s : Session} {name : String} {q : Request}

theorem answer_of_isCall (s : Session) (name : String) (hq : q.isCall = true) :
    ∃ journal, s.answer name q = ((q.onStack (s.builderOf name)).1,
      { s with
        builders := s.builders.set (s.stackOf name) (q.onStack (s.builderOf name)).2.2
        scripts := (q.onStack (s.builderOf name)).2.1.toList.map (name, ·) ++ s.scripts
        journal }) := by
  cases q with
  | step step =>
    refine ⟨s.journal, ?_⟩
    rw [answer, draft, Step.run_apply]
    dsimp only [Request.onStack]
    cases (Call.effects (s.builderOf name) step.calls).1 <;> rfl
  | finish =>
    rw [answer, draft]
    cases hf : (s.builderOf name).finish with
    | ok result =>
      obtain ⟨script, b⟩ := result
      refine ⟨s.journal ++ [.finished script.length], ?_⟩
      rw [Drafting.finish_ok hf, Request.onStack, hf]
      rfl
    | error e =>
      refine ⟨s.journal, ?_⟩
      rw [Drafting.finish_error hf, Request.onStack, hf]
      rfl
  | current =>
    refine ⟨s.journal, ?_⟩
    dsimp only [answer, Request.onStack]
    rw [builderOf, set_getElem?_getD]
    rfl
  | create | render | dump | tree => cases hq

/-- Every name stands for a stack that has come into being. -/
def Sound (s : Session) : Prop := ∀ name, s.stackOf name < s.builders.length

theorem stackOf_create_some (s : Session) (name other : String) :
    (s.create name (some other)).stackOf name = s.stackOf other := by
  rw [create, stackOf, List.lookup_cons_self, Option.getD_some]

theorem stackOf_create_none (s : Session) (name : String) :
    (s.create name none).stackOf name = s.builders.length := by
  rw [create, stackOf, List.lookup_cons_self, Option.getD_some]

theorem stackOf_create_of_ne {other : String} (shared : Option String) (h : other ≠ name) :
    (s.create name shared).stackOf other = s.stackOf other := by
  cases shared <;> simp [create, stackOf, List.lookup_cons, beq_false_of_ne h]

/-- A request of one name leaves the other names on their stacks, and a call the name as well. -/
theorem stackOf_answer {other : String} (h : other ≠ name ∨ q.isCall = true) :
    (s.answer name q).2.stackOf other = s.stackOf other := by
  by_cases hq : q.isCall = true
  · obtain ⟨journal, ha⟩ := answer_of_isCall s name hq
    rw [ha]
    rfl
  · cases q with
    | create shared => exact stackOf_create_of_ne shared (h.resolve_right hq)
    | render | dump | tree => rfl
    | step | finish | current => exact absurd rfl hq

theorem Sound.create (hs : s.Sound) (shared : Option String) : (s.create name shared).Sound := by
  have old : s.builders.length ≤ (s.create name shared).builders.length := by
    cases shared <;> simp [Session.create]
  intro other
  by_cases ho : other = name
  · subst ho
    cases shared with
    | none => rw [stackOf_create_none, Session.create, List.length_append]; exact Nat.lt_succ_self _
    | some owner =>
      rw [stackOf_create_some]
      exact Nat.lt_of_lt_of_le (hs owner) old
  · rw [stackOf_create_of_ne shared ho]
    exact Nat.lt_of_lt_of_le (hs other) old

theorem Sound.answer (hs : s.Sound) : (s.answer name q).2.Sound := by
  by_cases hq : q.isCall = true
  · obtain ⟨journal, ha⟩ := answer_of_isCall s name hq
    intro other
    rw [ha, List.length_set]
    exact hs other
  · cases q with
    | create shared => exact hs.create shared
    | render | dump | tree => exact hs
    | step | finish | current => exact absurd rfl hq

theorem stack_answer_of_isCall (hs : s.Sound) (hq : q.isCall = true) (i : Nat) :
    (s.answer name q).2.stack i =
      if s.stackOf name = i then (q.onStack (s.stack i)).2.2 else s.stack i := by
  obtain ⟨journal, ha⟩ := answer_of_isCall s name hq
  rw [ha, stack, List.getElem?_set]
  by_cases h : s.stackOf name = i
  · rw [if_pos h, if_pos h, if_pos (hs name)]
    subst h
    rfl
  · rw [if_neg h, if_neg h, stack]

theorem stack_answer_of_not_isCall (hq : q.isCall = false) (i : Nat) :
    (s.answer name q).2.stack i = s.stack i := by
  cases q with
  | create shared =>
    cases shared with
    | some owner => rfl
    | none =>
      rw [answer, Session.create, stack, stack]
      rcases Nat.lt_trichotomy i s.builders.length with h | h | h
      · rw [List.getElem?_append_left h]
      · subst h
        simp
      · rw [List.getElem?_eq_none (by rw [List.length_append]; exact h),
          List.getElem?_eq_none (Nat.le_of_lt h)]
  | render | dump | tree => rfl
  | step | finish | current => cases hq

theorem given_onStack (hq : q.isCall = true) (b : Builder) (scripts : List (String × Script)) :
    q.given (q.onStack b).1 (((q.onStack b).2.1.toList.map (name, ·) ++ scripts).lookup name) =
      (q.onStack b).2.1 := by
  cases q with
  | finish =>
    rw [Request.onStack]
    cases b.finish with
    | ok result => exact List.lookup_cons_self
    | error e => rfl
  | step | current => rfl
  | create | render | dump | tree => cases hq

theorem report_of_isCall (hs : s.Sound) (hq : q.isCall = true) :
    s.report name q = .ofStack (q.onStack (s.stack (s.stackOf name))) := by
  have left : (s.answer name q).2.builderOf name = (q.onStack (s.builderOf name)).2.2 := by
    change (s.answer name q).2.stack ((s.answer name q).2.stackOf name) = _
    rw [stackOf_answer (.inr hq), stack_answer_of_isCall hs hq, if_pos rfl]
    rfl
  obtain ⟨journal, ha⟩ := answer_of_isCall s name hq
  have given : q.given (s.answer name q).1 ((s.answer name q).2.scriptOf name) =
      (q.onStack (s.builderOf name)).2.1 := by
    rw [ha]
    exact given_onStack hq (s.builderOf name) s.scripts
  rw [report, left, given, ha]
  rfl

/-! ## Interleaved calls -/

theorem sound_after (requests : List (String × Request)) (hs : s.Sound) :
    (s.after requests).Sound := by
  induction requests generalizing s with
  | nil => exact hs
  | cons e rest ih => exact ih hs.answer

def Event.isCallTo (i : Nat) (e : Event) : Bool := e.stack == i && e.request.isCall

/-- The calls to one stack, in whatever run, come to what the stack makes of them in their order. -/
theorem trace_stack (requests : List (String × Request)) (hs : s.Sound) (i : Nat) :
    ((s.trace requests).filter (Event.isCallTo i)).map Event.report =
        Report.along (s.stack i)
          (((s.trace requests).filter (Event.isCallTo i)).map Event.request) ∧
      (s.after requests).stack i =
        (((s.trace requests).filter (Event.isCallTo i)).map Event.request).foldl
          (fun b q => (q.onStack b).2.2) (s.stack i) := by
  induction requests generalizing s with
  | nil => exact ⟨rfl, rfl⟩
  | cons e rest ih =>
    obtain ⟨name, q⟩ := e
    have hr := ih (hs.answer : (s.answer name q).2.Sound)
    rw [trace, after, List.foldl_cons, ← after]
    cases hq : q.isCall with
    | false =>
      rw [stack_answer_of_not_isCall hq] at hr
      rw [List.filter_cons_of_neg (by simp [Event.isCallTo, hq])]
      exact hr
    | true =>
      rw [stack_answer_of_isCall hs hq] at hr
      by_cases h : s.stackOf name = i
      · subst h
        rw [if_pos rfl] at hr
        rw [List.filter_cons_of_pos (by simp [Event.isCallTo, hq])]
        simp only [List.map_cons, Report.along, List.foldl_cons, report_of_isCall hs hq, hr.1, hr.2]
        exact ⟨trivial, trivial⟩
      · rw [if_neg h] at hr
        rw [List.filter_cons_of_neg (by simp [Event.isCallTo, h])]
        exact hr

/-- In a run of calls to one builder, which stays on its stack, every event is a call to it. -/
theorem trace_single (s : Session) (name : String) (calls : List Request)
    (hc : ∀ q ∈ calls, q.isCall = true) :
    (∀ e ∈ s.trace (calls.map (name, ·)), e.isCallTo (s.stackOf name) = true) ∧
      (s.trace (calls.map (name, ·))).map Event.request = calls ∧
      (s.after (calls.map (name, ·))).stackOf name = s.stackOf name := by
  induction calls generalizing s with
  | nil => exact ⟨List.forall_mem_nil _, rfl, rfl⟩
  | cons q rest ih =>
    obtain ⟨hq, hr⟩ := List.forall_mem_cons.mp hc
    obtain ⟨calls, requests, stays⟩ := ih (s.answer name q).2 hr
    rw [stackOf_answer (.inr hq)] at calls stays
    exact ⟨List.forall_mem_cons.mpr ⟨by simp [Event.isCallTo, hq], calls⟩,
      congrArg (q :: ·) requests, stays⟩

theorem sound_empty : Sound {} := fun name => by
  change ((([("main", 0)] : List (String × Nat)).lookup name).getD 0) < 1
  rw [List.lookup_cons]
  split <;> exact Nat.one_pos

theorem stack_empty (i : Nat) : stack {} i = {} := by
  cases i <;> rfl

/-- Which names share a stack is settled when they come into being: a builder that is made over
another one is on the same stack, any other has a stack of its own, and they stay on their stacks
until their names are given away. -/
structure SharesAsCreated (s : Session) : Prop where
  joined : ∀ name other, (s.answer name (.create (some other))).2.stackOf name = s.stackOf other
  apart : ∀ name other, (s.answer name (.create none)).2.stackOf name ≠ s.stackOf other
  kept : ∀ name q other, other ≠ name ∨ q.isCall = true →
    (s.answer name q).2.stackOf other = s.stackOf other

def callsTo (i : Nat) (requests : List (String × Request)) : List Event :=
  (trace {} requests).filter (Event.isCallTo i)

def ofMain (events : List Event) : List (String × Request) :=
  events.map fun e => ("main", e.request)

/-- However requests to builders are interleaved, what can be seen of the calls to one stack is what
can be seen when a single builder gets them alone, and that is what becomes of the stack. -/
theorem interleaved_eq_alone (requests : List (String × Request)) (i : Nat) :
    SharesAsCreated (after {} requests) ∧
      (callsTo i requests).map Event.report =
        (trace {} (ofMain (callsTo i requests))).map Event.report ∧
      (after {} requests).stack i =
        (after {} (ofMain (callsTo i requests))).builderOf "main" := by
  have sound := sound_after requests sound_empty
  have calls : ∀ q ∈ (callsTo i requests).map Event.request, q.isCall = true := by
    intro q hq
    obtain ⟨e, he, rfl⟩ := List.mem_map.mp hq
    exact (Bool.and_eq_true_iff.mp (List.mem_filter.mp he).2).2
  have single : ofMain (callsTo i requests) =
      ((callsTo i requests).map Event.request).map ("main", ·) := (List.map_map ..).symm
  obtain ⟨own, asked, stays⟩ := trace_single {} "main" _ calls
  rw [← single] at own asked stays
  obtain ⟨reports, left⟩ := trace_stack requests sound_empty i
  obtain ⟨reports', left'⟩ := trace_stack (ofMain (callsTo i requests)) sound_empty
    (stackOf {} "main")
  rw [List.filter_eq_self.mpr own, asked] at reports' left'
  rw [stack_empty] at reports left reports' left'
  refine ⟨⟨fun name other => stackOf_create_some _ name other, fun name other => ?_,
    fun _ _ _ => stackOf_answer⟩, reports.trans reports'.symm, ?_⟩
  · exact stackOf_create_none _ name ▸ (Nat.ne_of_lt (sound other)).symm
  · rw [builderOf, stays]
    exact left.trans left'.symm

end Session

end BuildScript.Shell

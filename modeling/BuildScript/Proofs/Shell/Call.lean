import BuildScript.Shell.Session
import BuildScript.Proofs.Draft.Writing

/-! # Calls

The primitive calls that builder steps come down to. A step with a body issues the call that opens
its block, the calls of the body and the call that closes the block, and a run of steps stops where
the first of its calls fails.
-/

namespace BuildScript

namespace Shell

inductive Call
  | command (c : Command)
  | assign (e : Export)
  | raw (text : String)
  | openFold (label : String)
  | openConditional (test : String)
  | elseIf (test : String)
  | orElse
  | close
  /-- A call that is refused before it reaches the builder. -/
  | refuse (f : Draft.Fault)
deriving DecidableEq

theorem of_mapError {x : Except StructuralFault Builder} {b : Builder}
    (h : x.mapError Draft.Fault.structural = .ok b) : x = .ok b := by
  cases x <;> cases h
  rfl

namespace Call

def run : Call → Drafting Unit
  | .command c => Drafting.append (.command c)
  | .assign e => Drafting.assign e
  | .raw text => Drafting.raw text
  | .openFold label => Drafting.openFold label
  | .openConditional test => Drafting.openConditional test
  | .elseIf test => Drafting.elseIf test
  | .orElse => Drafting.orElse
  | .close => Drafting.close
  | .refuse f => throw f

def runAll : List Call → Drafting Unit
  | [] => pure ()
  | call :: rest => do
    call.run
    runAll rest

@[simp] theorem runAll_nil : runAll [] = pure () := rfl

@[simp] theorem runAll_cons (call : Call) (rest : List Call) :
    runAll (call :: rest) = (do call.run; runAll rest) := rfl

@[simp] theorem runAll_append (before after : List Call) :
    runAll (before ++ after) = (do runAll before; runAll after) := by
  induction before with
  | nil => simp
  | cons call rest ih => simp [ih]

/-- The builder after a call, unless the call fails. -/
def effect (b : Builder) : Call → Except Draft.Fault Builder
  | .command c => (b.append (.command c)).mapError .structural
  | .assign e => (b.append (.assign e)).mapError .structural
  | .raw text => (b.append (.raw text)).mapError .structural
  | .openFold label => (b.openFold label).mapError .structural
  | .openConditional test => (b.openConditional test).mapError .structural
  | .elseIf test => (b.elseIf test).mapError .structural
  | .orElse => b.orElse.mapError .structural
  | .close => b.close.mapError .structural
  | .refuse f => .error f

theorem run_apply (call : Call) (d : Draft) :
    call.run d = match effect d.builder call with
      | .ok b => (.ok (), ⟨b, d.journal⟩)
      | .error f => (.error f, d) := by
  cases call with
  | refuse f => rfl
  | command c => exact Drafting.change_apply (fun b => b.append (.command c)) d
  | assign e => exact Drafting.change_apply (fun b => b.append (.assign e)) d
  | raw text => exact Drafting.change_apply (fun b => b.append (.raw text)) d
  | openFold label => exact Drafting.change_apply (fun b => b.openFold label) d
  | openConditional test => exact Drafting.change_apply (fun b => b.openConditional test) d
  | elseIf test => exact Drafting.change_apply (fun b => b.elseIf test) d
  | orElse => exact Drafting.change_apply (fun b => b.orElse) d
  | close => exact Drafting.change_apply (fun b => b.close) d

theorem run_of_effect_ok {call : Call} {d : Draft} {b : Builder}
    (h : effect d.builder call = .ok b) : call.run d = (.ok (), ⟨b, d.journal⟩) := by
  rw [run_apply, h]

theorem eq_of_run_error {call : Call} {d d' : Draft} {f : Draft.Fault}
    (h : call.run d = (.error f, d')) : d' = d := by
  cases he : effect d.builder call with
  | ok b => rw [run_of_effect_ok he] at h; cases h
  | error e => rw [run_apply, he] at h; cases h; rfl

theorem effect_of_run_error {call : Call} {d d' : Draft} {f : Draft.Fault}
    (h : call.run d = (.error f, d')) : effect d.builder call = .error f := by
  cases he : effect d.builder call with
  | ok b => rw [run_of_effect_ok he] at h; cases h
  | error e => rw [run_apply, he] at h; cases h; rfl

/-- Where a run of calls fails, the calls before have succeeded and none has run after. -/
theorem cut_of_runAll_error {calls : List Call} {d d' : Draft} {f : Draft.Fault}
    (h : runAll calls d = (.error f, d')) :
    ∃ before call after, calls = before ++ call :: after ∧
      runAll before d = (.ok (), d') ∧ call.run d' = (.error f, d') := by
  induction calls generalizing d with
  | nil => cases h
  | cons call rest ih =>
    cases hc : call.run d with
    | mk result e =>
      cases result with
      | error g =>
        rw [runAll_cons, Drafting.bind_error hc] at h
        cases h
        obtain rfl := eq_of_run_error hc
        exact ⟨[], call, rest, rfl, rfl, hc⟩
      | ok a =>
        rw [runAll_cons, Drafting.bind_ok hc] at h
        obtain ⟨before, last, after, rfl, hb, hl⟩ := ih h
        exact ⟨call :: before, last, after, rfl, (Drafting.bind_ok hc).trans hb, hl⟩

end Call

namespace Step

def commandCalls (c : Command) (label : String) : List Call :=
  if label = "" then [.command c] else [.openFold label, .command c, .close]

mutual

/-- The calls that a step issues when none of them fails. -/
def calls : Step → List Call
  | .command c color label =>
    match colorOf color with
    | .error e => [.refuse e]
    | .ok color => commandCalls { c with color := color } label
  | .assign key value echo secure => [.assign ⟨key, value.written .loose, echo, secure⟩]
  | .message text color => [.command { text := messageLine text color }]
  | .newline => [.raw "echo"]
  | .raw text => [.raw text]
  | .openConditional test => [.openConditional test]
  | .elseIf test => [.elseIf test]
  | .orElse => [.orElse]
  | .openFold label => [.openFold label]
  | .close => [.close]
  | .conditional test body => .openConditional test :: (callsOf body ++ [.close])
  | .fold label body => .openFold label :: (callsOf body ++ [.close])
  | .abandon => [.refuse .abandoned]
  | .inherited => []

def callsOf : List Step → List Call
  | [] => []
  | step :: rest => calls step ++ callsOf rest

end

theorem runAll_commandCalls (c : Command) (label : String) :
    Call.runAll (commandCalls c label) = Drafting.command c label := by
  unfold commandCalls Drafting.command
  split <;> simp [Call.run, Drafting.fold]

/-- The step with its answer passed over. -/
def perform (s : Step) : Drafting Unit := do
  let _ ← s.run (pure ())
  pure ()

mutual

theorem perform_eq (s : Step) : s.perform = Call.runAll s.calls := by
  cases s with
  | command c color label =>
    cases h : colorOf color with
    | error e => simp [perform, run, calls, h, Call.run]
    | ok color => simp [perform, run, calls, h, runAll_commandCalls]
  | conditional test body =>
    simp [perform, run, calls, block, Call.run, Drafting.conditional, runAll_eq body]
  | fold label body =>
    simp [perform, run, calls, block, Call.run, Drafting.fold, runAll_eq body]
  | assign | message | newline | raw =>
    simp [perform, run, calls, leaf, Call.run, Drafting.assign, Drafting.raw]
  | openConditional | elseIf | orElse | openFold | close =>
    simp [perform, run, calls, block, Call.run]
  | abandon => simp [perform, run, calls, Call.run]
  | inherited => simp [perform, run, calls, block]

theorem runAll_eq (steps : List Step) : runAll (pure ()) steps = Call.runAll (callsOf steps) := by
  cases steps with
  | nil => rfl
  | cons step rest =>
    have h := perform_eq step
    simp only [runAll, callsOf, Call.runAll_append, ← h, ← runAll_eq rest, perform]
    simp

end

end Step

end Shell

end BuildScript

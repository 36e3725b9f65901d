import BuildScript.Proofs.Shell.Call

/-! # Failures

What is left of a draft when a builder refuses something. A primitive step that fails changes
nothing, and a step with a body stops at the first of its calls that fails: the blocks that are open
there stay open, and the script cannot be finished before each of them is closed.
-/

namespace BuildScript

namespace Shell

/-- Whether a step is a single call to the builder, or a command in a fold of its own. -/
def Step.isPrimitive : Step → Bool
  | .conditional _ _ | .fold _ _ => false
  | _ => true

/-- What a builder is asked for: a step, or the finished script. -/
inductive Turn
  | step (s : Step)
  | finish

namespace Turn

def run : Turn → Drafting Unit
  | .step s => s.perform
  | .finish => do
    let _ ← Drafting.finish
    pure ()

def after (d : Draft) (turns : List Turn) : Draft := turns.foldl (fun d t => (t.run d).2) d

def calls : Turn → List Call
  | .step s => s.calls
  | .finish => []

end Turn

/-- The states in which a builder refuses a call. -/
def Call.IsRefused (b : Builder) : Call → Prop
  | .refuse _ => True
  | .elseIf _ | .orElse =>
    b.finished = true ∨ ∀ closed test body below,
      b.frames ≠ .conditional closed (some test) body :: below
  | .close => b.finished = true ∨ b.frames = []
  | .command _ | .assign _ | .raw _ | .openFold _ | .openConditional _ => b.finished = true

def Builder.Settled (b : Builder) : Prop := b.finished = true → b.frames = []

@[simp] theorem Builder.length_frames_extend (b : Builder) (ns : List Node) :
    (b.extend ns).frames.length = b.frames.length := by
  obtain ⟨root, frames, finished⟩ := b
  cases frames <;> simp [extend]

theorem Builder.nextArm_eq_error_iff {b : Builder} {name : String} {test : Option String} :
    (∃ f, b.nextArm name test = .error f) ↔ b.finished = true ∨
      ∀ closed last body below, b.frames ≠ .conditional closed (some last) body :: below := by
  unfold nextArm
  cases hb : b.finished with
  | true => simp
  | false =>
    simp only [Bool.false_eq_true, if_false, false_or]
    constructor
    · rintro ⟨f, hf⟩ closed last body below he
      rw [he] at hf
      cases hf
    · intro h
      split
      · exact absurd ‹_› (h _ _ _ _)
      all_goals exact ⟨_, rfl⟩

namespace Call

theorem mapError_eq_error_iff {α : Type} {x : Except StructuralFault α} :
    (∃ f, x.mapError Draft.Fault.structural = .error f) ↔ ∃ e, x = .error e := by
  cases x with
  | error e => exact ⟨fun _ => ⟨e, rfl⟩, fun _ => ⟨.structural e, rfl⟩⟩
  | ok a =>
    constructor
    · rintro ⟨f, hf⟩
      cases hf
    · rintro ⟨e, he⟩
      cases he

/-- A builder refuses exactly the calls that are out of nesting order, and all once it is
finished. -/
theorem effect_eq_error_iff (b : Builder) (call : Call) :
    (∃ f, call.effect b = .error f) ↔ call.IsRefused b := by
  cases call with
  | refuse f => simp [effect, IsRefused]
  | elseIf test => exact mapError_eq_error_iff.trans Builder.nextArm_eq_error_iff
  | orElse => exact mapError_eq_error_iff.trans Builder.nextArm_eq_error_iff
  | close =>
    refine mapError_eq_error_iff.trans ?_
    unfold Builder.close IsRefused
    cases hb : b.finished <;> cases hf : b.frames <;> simp
  | command | assign | raw | openFold | openConditional =>
    refine mapError_eq_error_iff.trans ?_
    simp only [Builder.append, Builder.openFold, Builder.openConditional, Builder.push, IsRefused]
    cases hb : b.finished <;> simp

/-- A call neither finishes a builder nor takes more than one block off it, and that only if it
closes one. -/
theorem effect_frames {call : Call} {b b' : Builder} (h : call.effect b = .ok b') :
    b'.finished = b.finished ∧
      b.frames.length ≤ b'.frames.length + [call].count .close := by
  have leaf : ∀ n : Node, b.append n = .ok b' → b'.finished = b.finished ∧
      b.frames.length ≤ b'.frames.length + [call].count .close := by
    intro n hn
    obtain rfl := Builder.eq_of_append hn
    simp
  have arm : ∀ name test, b.nextArm name test = .ok b' → b'.finished = b.finished ∧
      b.frames.length ≤ b'.frames.length + [call].count .close := by
    intro name test hn
    obtain ⟨closed, last, body, below, he, rfl⟩ := Builder.eq_of_nextArm hn
    simp [he]
  cases call with
  | command c => exact leaf _ (of_mapError h)
  | assign e => exact leaf _ (of_mapError h)
  | raw text => exact leaf _ (of_mapError h)
  | elseIf test => exact arm _ _ (of_mapError h)
  | orElse => exact arm _ _ (of_mapError h)
  | openFold | openConditional =>
    obtain rfl := Builder.eq_of_push (of_mapError h)
    exact ⟨rfl, by simp only [List.length_cons]; omega⟩
  | close =>
    obtain ⟨top, below, he, rfl⟩ := Builder.eq_of_close (of_mapError h)
    simp [he]
  | refuse f => cases h

theorem unfinished_of_effect {call : Call} {b b' : Builder} (h : call.effect b = .ok b') :
    b.finished = false := by
  cases hb : b.finished with
  | false => rfl
  | true =>
    have hr : call.IsRefused b := by cases call <;> simp [IsRefused, hb]
    obtain ⟨f, hf⟩ := (effect_eq_error_iff b call).mpr hr
    rw [hf] at h
    cases h

theorem runAll_frames (calls : List Call) (d : Draft) (hd : d.builder.Settled) :
    (runAll calls d).2.builder.Settled ∧
      d.builder.frames.length ≤
        (runAll calls d).2.builder.frames.length + calls.count .close := by
  induction calls generalizing d with
  | nil => exact ⟨hd, Nat.le_refl _⟩
  | cons call rest ih =>
    rw [runAll_cons]
    cases he : call.effect d.builder with
    | error f =>
      rw [Drafting.bind_error (by rw [run_apply, he])]
      exact ⟨hd, Nat.le_add_right _ _⟩
    | ok b =>
      rw [Drafting.bind_ok (run_of_effect_ok he)]
      obtain ⟨hf, hl⟩ := effect_frames he
      have hb : b.Settled := by
        intro ht
        rw [hf, unfinished_of_effect he] at ht
        cases ht
      obtain ⟨hs, hr⟩ := ih ⟨b, d.journal⟩ hb
      have hc : (call :: rest).count .close = [call].count .close + rest.count .close := by
        rw [← List.count_append, List.singleton_append]
      refine ⟨hs, Nat.le_trans hl ?_⟩
      change b.frames.length ≤ _ at hr
      omega

end Call

theorem Step.eq_of_run_error {s : Step} (hs : s.isPrimitive = true) {d d' : Draft}
    {f : Draft.Fault} (h : s.run (pure ()) d = (.error f, d')) : d' = d := by
  have hp : Call.runAll s.calls d = (.error f, d') := by
    rw [← perform_eq]
    exact Drafting.bind_error h
  have single : ∀ call, s.calls = [call] → d' = d := by
    intro call hc
    rw [hc, Call.runAll_cons, Call.runAll_nil, bind_pure_unit] at hp
    exact Call.eq_of_run_error hp
  cases s with
  | command c color label =>
    cases hc : colorOf color with
    | error e => exact single (.refuse e) (by simp [calls, hc])
    | ok color =>
      by_cases hl : label = ""
      · exact single (.command { c with color := color }) (by simp [calls, hc, commandCalls, hl])
      · -- once its fold is open, neither the command nor the end of the fold can be refused
        simp only [calls, hc, commandCalls, hl, if_false] at hp
        cases hd : d.builder.finished with
        | true =>
          have hb : d.builder.openFold label = .error .alreadyFinished := by
            simp [Builder.openFold, Builder.push, hd]
          have ho : Call.effect d.builder (.openFold label) =
              .error (.structural .alreadyFinished) := by
            rw [Call.effect, hb]
            rfl
          rw [Call.runAll_cons, Drafting.bind_error (by rw [Call.run_apply, ho])] at hp
          cases hp
          rfl
        | false =>
          have hw := (Drafting.writes_append (.command { c with color := color })).fold label d hd
          simp only [Call.runAll_cons, Call.runAll_nil, bind_pure_unit] at hp
          cases hw.symm.trans hp
  | conditional | fold => cases hs
  | inherited => cases hp
  | assign | message | newline | raw | openConditional | elseIf | orElse | openFold | close
  | abandon => exact single _ rfl

namespace Turn

theorem finish_cases (d : Draft) : (run .finish d).2 = d ∨
    d.builder.frames = [] ∧ (run .finish d).2.builder = { d.builder with finished := true } := by
  rw [run]
  cases hf : d.builder.finish with
  | error e =>
    rw [Drafting.bind_error (Drafting.finish_error hf)]
    exact .inl rfl
  | ok sb =>
    obtain ⟨hn, -, -, hb⟩ := Builder.of_finish hf
    rw [Drafting.bind_ok (Drafting.finish_ok hf)]
    exact .inr ⟨hn, hb⟩

theorem run_frames (t : Turn) (d : Draft) (hd : d.builder.Settled) :
    (t.run d).2.builder.Settled ∧
      d.builder.frames.length ≤ (t.run d).2.builder.frames.length + t.calls.count .close := by
  cases t with
  | step s =>
    rw [run, Step.perform_eq]
    exact Call.runAll_frames s.calls d hd
  | finish =>
    rcases finish_cases d with he | ⟨hn, hb⟩
    · rw [he]
      exact ⟨hd, Nat.le_refl _⟩
    · rw [hb]
      exact ⟨fun _ => hn, Nat.le_refl _⟩

theorem after_frames (turns : List Turn) (d : Draft) (hd : d.builder.Settled) :
    (after d turns).builder.Settled ∧
      d.builder.frames.length ≤
        (after d turns).builder.frames.length + (turns.flatMap calls).count .close := by
  induction turns generalizing d with
  | nil => exact ⟨hd, Nat.le_refl _⟩
  | cons t rest ih =>
    obtain ⟨ht, hl⟩ := run_frames t d hd
    obtain ⟨hs, hr⟩ := ih (t.run d).2 ht
    refine ⟨hs, ?_⟩
    rw [List.flatMap_cons, List.count_append]
    change _ ≤ (after (t.run d).2 rest).builder.frames.length + _
    omega

theorem after_closes (n : Nat) (d : Draft) (hd : d.builder.finished = false)
    (hn : d.builder.frames.length = n) :
    (after d (List.replicate n (.step .close))).builder.finished = false ∧
      (after d (List.replicate n (.step .close))).builder.frames = [] := by
  induction n generalizing d with
  | zero => exact ⟨hd, List.length_eq_zero_iff.mp hn⟩
  | succ n ih =>
    obtain ⟨⟨root, _ | ⟨top, below⟩, finished⟩, journal⟩ := d
    · cases hn
    · obtain rfl : finished = false := hd
      have hc : ((Turn.step .close).run ⟨⟨root, top :: below, false⟩, journal⟩).2 =
          ⟨Builder.extend ⟨root, below, false⟩ [top.node], journal⟩ := by
        rw [run, Step.perform_eq]
        exact congrArg Prod.snd (Drafting.bind_ok (Drafting.close_apply root top below journal))
      rw [List.replicate_succ, after, List.foldl_cons, hc]
      exact ih _ (Builder.finished_extend ..) (by simpa using hn)

end Turn

end Shell

namespace Draft

open Shell

/-- How a draft stands up to failures. -/
structure Guarded (d : Draft) : Prop where
  /-- A primitive step that fails changes nothing. -/
  step : ∀ s : Step, s.isPrimitive = true → ∀ f d', s.run (pure ()) d = (.error f, d') → d' = d
  /-- Neither does a refused request for the finished script. -/
  finish : ∀ f d', Drafting.finish d = (.error f, d') → d' = d
  /-- The calls that are refused are those out of nesting order. -/
  refused : ∀ call : Call, (∃ f, call.run d = (.error f, d)) ↔ call.IsRefused d.builder
  /-- The script is refused when it is finished already or a block is open. -/
  unfinished : (∃ f, Drafting.finish d = (.error f, d)) ↔
    d.builder.finished = true ∨ d.builder.frames ≠ []
  /-- Steps, with whatever bodies, run as their calls. -/
  flat : ∀ steps, Step.runAll (pure ()) steps d = Call.runAll (Step.callsOf steps) d
  /-- Steps that fail stop at the first call that fails, as that call finds the draft. -/
  cut : ∀ steps f d', Step.runAll (pure ()) steps d = (.error f, d') →
    ∃ before call after, Step.callsOf steps = before ++ call :: after ∧
      Call.runAll before d = (.ok (), d') ∧ call.run d' = (.error f, d')
  /-- The script is not finished before as many blocks are closed as they leave open. -/
  unclosed : ∀ steps f d', Step.runAll (pure ()) steps d = (.error f, d') →
    ∀ turns, (turns.flatMap Turn.calls).count .close + 1 < d'.builder.depth →
      ∃ blocks, (Drafting.finish (Turn.after d' turns)).1 = .error (.structural (.unclosed blocks))
  /-- Once those blocks are closed the script is finished, unless it was so before. -/
  closable : ∀ steps f d', Step.runAll (pure ()) steps d = (.error f, d') →
    d'.builder.finished = false → ∃ script, (Drafting.finish (Turn.after d'
      (List.replicate (d'.builder.depth - 1) (.step .close)))).1 = .ok script
  /-- The script is the outermost block, and the only block of its kind. -/
  kinds : ∃ inner, d.builder.kinds = .script :: inner ∧ .script ∉ inner
  depth : d.builder.depth = d.builder.kinds.length

theorem finish_of_closed {d : Draft} (hu : d.builder.finished = false)
    (hf : d.builder.frames = []) :
    ∃ d', Drafting.finish d = (.ok d.builder.root, d') := by
  have hb : d.builder.finish = .ok (d.builder.root, { d.builder with finished := true }) := by
    simp [Builder.finish, hu, hf]
  exact ⟨_, Drafting.finish_ok hb⟩

theorem finish_eq_error_iff (d : Draft) :
    (∃ f, Drafting.finish d = (.error f, d)) ↔
      d.builder.finished = true ∨ d.builder.frames ≠ [] := by
  constructor
  · rintro ⟨f, hf⟩
    cases hu : d.builder.finished with
    | true => exact .inl rfl
    | false =>
      refine .inr fun hn => ?_
      obtain ⟨d', hd⟩ := finish_of_closed hu hn
      cases hd.symm.trans hf
  · intro h
    cases hb : d.builder.finish with
    | error e => exact ⟨_, Drafting.finish_error hb⟩
    | ok sb =>
      obtain ⟨hf, hu, -⟩ := Builder.of_finish hb
      simp [hf, hu] at h

theorem finish_of_open {d : Draft} (hs : d.builder.Settled) (ho : 0 < d.builder.frames.length) :
    ∃ blocks, (Drafting.finish d).1 = .error (.structural (.unclosed blocks)) := by
  have hn : d.builder.frames ≠ [] := List.length_pos_iff.mp ho
  have hu : d.builder.finished = false := by
    cases hb : d.builder.finished with
    | false => rfl
    | true => exact absurd (hs hb) hn
  have hf : d.builder.finish = .error (.unclosed (d.builder.frames.map Frame.kind).reverse) := by
    simp [Builder.finish, hu, hn]
  exact ⟨_, by rw [Drafting.finish_error hf]⟩

theorem script_notMem_kinds (frames : List Frame) : .script ∉ (frames.map Frame.kind).reverse := by
  simp only [List.mem_reverse, List.mem_map, not_exists, not_and]
  rintro (_ | _) _ <;> simp [Frame.kind]

/-- Whatever was asked of a builder up to now, and whatever of it failed, what fails next changes
nothing, and no failure closes a block. -/
theorem guarded_after (turns : List Turn) : (Turn.after {} turns).Guarded := by
  obtain ⟨hs, -⟩ := Turn.after_frames turns {} (fun _ => rfl)
  generalize Turn.after {} turns = d at hs
  exact {
    step := fun s hp f d' h => Step.eq_of_run_error hp h
    finish := by
      intro f d' h
      cases hf : d.builder.finish with
      | error e => rw [Drafting.finish_error hf] at h; cases h; rfl
      | ok sb => rw [Drafting.finish_ok hf] at h; cases h
    refused := by
      intro call
      rw [← Call.effect_eq_error_iff]
      constructor
      · rintro ⟨f, hf⟩
        exact ⟨f, Call.effect_of_run_error hf⟩
      · rintro ⟨f, hf⟩
        exact ⟨f, by rw [Call.run_apply, hf]⟩
    unfinished := finish_eq_error_iff d
    flat := fun steps => by rw [Step.runAll_eq]
    cut := by
      intro steps f d' h
      rw [Step.runAll_eq] at h
      exact Call.cut_of_runAll_error h
    unclosed := by
      intro steps f d' h more hm
      rw [Step.runAll_eq] at h
      obtain ⟨hs', -⟩ := Call.runAll_frames (Step.callsOf steps) d hs
      rw [h] at hs'
      obtain ⟨ha, hl⟩ := Turn.after_frames more d' hs'
      refine finish_of_open ha ?_
      unfold Builder.depth at hm
      omega
    closable := by
      intro steps f d' _ hu
      obtain ⟨hu', hf⟩ := Turn.after_closes d'.builder.frames.length d' hu rfl
      obtain ⟨e, he⟩ := finish_of_closed hu' hf
      exact ⟨_, congrArg Prod.fst he⟩
    kinds := ⟨_, rfl, script_notMem_kinds d.builder.frames⟩
    depth := d.builder.length_kinds.symm }

end Draft

end BuildScript

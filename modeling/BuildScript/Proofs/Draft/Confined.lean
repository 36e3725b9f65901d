import BuildScript.Pipeline
import BuildScript.Proofs.Draft.Steady
import BuildScript.Proofs.Shell.Failure

/-! # Confined actions

An action is confined if it starts no stage and does not finish its builder, whether it fails or
not: it may write anything and leave any block open. Actions made of confined ones are confined, and
so are all that builder steps can do and all that a profile does at its stages.
-/

namespace BuildScript

open Shell

/-- The stage that a notice says has been started. -/
def Notice.stage? : Notice → Option Stage
  | .running stage => some stage
  | _ => none

def Journal.started (journal : Journal) : List Stage := journal.filterMap Notice.stage?

theorem Journal.started_append (js ls : Journal) :
    started (js ++ ls) = started js ++ started ls := List.filterMap_append

/-- From one draft to the other stages have been started, and the builder has not been finished. -/
structure Draft.Starts (d d' : Draft) (stages : List Stage) : Prop where
  unfinished : d'.builder.finished = false
  journal : ∃ js, d'.journal = d.journal ++ js ∧ Journal.started js = stages

theorem Draft.Starts.trans {d e d' : Draft} {earlier later : List Stage}
    (h : d.Starts e earlier) (h' : e.Starts d' later) : d.Starts d' (earlier ++ later) := by
  obtain ⟨js, hj, hs⟩ := h.journal
  obtain ⟨ls, hl, ht⟩ := h'.journal
  refine ⟨h'.unfinished, js ++ ls, ?_, ?_⟩
  · rw [hl, hj, List.append_assoc]
  · rw [Journal.started_append, hs, ht]

namespace Drafting

variable {α β γ : Type}

class Confined (x : Drafting α) : Prop where
  draft (d : Draft) (hd : d.builder.finished = false) : d.Starts (x d).2 []

namespace Confined

variable {x y : Drafting α} {k : α → Drafting β}

theorem of_same {x : Drafting α} (h : ∀ d, d.builder.finished = false →
    (x d).2.builder.finished = false ∧ (x d).2.journal = d.journal) : Confined x where
  draft d hd := ⟨(h d hd).1, [], by rw [(h d hd).2, List.append_nil], rfl⟩

instance pure (a : α) : Confined (Pure.pure a : Drafting α) := of_same fun _ hd => ⟨hd, rfl⟩

instance throw (f : Draft.Fault) : Confined (throw f : Drafting α) := of_same fun _ hd => ⟨hd, rfl⟩

theorem bind (hx : Confined x) (hk : ∀ a, Confined (k a)) : Confined (x >>= k) where
  draft d hd := by
    have hs := hx.draft d hd
    cases h : x d with
    | mk result e =>
      rw [h] at hs
      cases result with
      | error f =>
        rw [bind_error h]
        exact hs
      | ok a =>
        rw [bind_ok h]
        exact hs.trans ((hk a).draft e hs.unfinished)

instance [Confined x] [∀ a, Confined (k a)] : Confined (x >>= k) :=
  .bind inferInstance fun _ => inferInstance

theorem ite {c : Prop} [Decidable c] (hx : Confined x) (hy : Confined y) :
    Confined (if c then x else y) := by
  split <;> assumption

instance {c : Prop} [Decidable c] [Confined x] [Confined y] : Confined (if c then x else y) :=
  .ite inferInstance inferInstance

theorem when {c : Prop} [Decidable c] {x : Drafting Unit} {k : Unit → Drafting β}
    (hx : Confined x) (hk : Confined (k ())) : Confined (if c then x >>= k else k ()) :=
  ite (bind hx fun _ => hk) hk

instance forM {g : γ → Drafting Unit} [hg : ∀ a, Confined (g a)] (l : List γ) :
    Confined (l.forM g) := by
  induction l with
  | nil => exact pure ()
  | cons a rest ih => exact bind (hg a) fun _ => ih

theorem note {n : Notice} (h : n.stage? = none) : Confined (note n) where
  draft d hd := ⟨hd, [n], rfl, by rw [Journal.started, List.filterMap_cons, h]; rfl⟩

instance call (c : Call) : Confined c.run := of_same fun d hd => by
  rw [Call.run_apply]
  cases he : Call.effect d.builder c with
  | error f => exact ⟨hd, rfl⟩
  | ok b => exact ⟨(Call.effect_frames he).1.trans hd, rfl⟩

theorem of_writes {a : α} {ns : List Node} {js : Journal} (h : Writes x a ns js)
    (hj : Journal.started js = []) : Confined x where
  draft d hd := by
    rw [h d hd]
    exact ⟨(Builder.finished_extend ..).trans hd, js, rfl, hj⟩

instance append (n : Node) : Confined (append n) := of_writes (writes_append n) rfl

instance raw (text : String) : Confined (raw text) := append _

instance newline : Confined newline := append _

instance assign (e : Export) : Confined (assign e) := append _

instance command (c : Command) (label : String) : Confined (command c label) :=
  of_writes (writes_command c label) rfl

instance message (text : String) (color : Option Color) : Confined (message text color) :=
  command _ _

instance openFold (label : String) : Confined (openFold label) := call (.openFold label)

instance openConditional (test : String) : Confined (openConditional test) :=
  call (.openConditional test)

instance elseIf (test : String) : Confined (elseIf test) := call (.elseIf test)

instance orElse : Confined orElse := call .orElse

instance close : Confined close := call .close

instance fold (label : String) (body : Drafting Unit) [Confined body] :
    Confined (fold label body) :=
  inferInstanceAs (Confined (do Drafting.openFold label; body; Drafting.close))

instance conditional (test : String) (body : Drafting Unit) [Confined body] :
    Confined (conditional test body) :=
  inferInstanceAs (Confined (do Drafting.openConditional test; body; Drafting.close))

instance read (r : Except Setting.Misuse α) : Confined (read r) := by
  cases r with
  | ok a => exact pure a
  | error m => exact throw (.misuse m)

theorem answered {x : Drafting Unit} (h : Confined x) (answer : Option Node) :
    Confined (do x; Pure.pure answer) := bind h fun _ => pure answer

mutual

theorem run {inherited : Drafting Unit} (h : Confined inherited) (s : Step) :
    Confined (s.run inherited) := by
  cases s with
  | command c color label =>
    unfold Step.run
    split <;> infer_instance
  | assign | message | newline | raw => exact answered (append _) _
  | openConditional test => exact answered (openConditional test) none
  | elseIf test => exact answered (elseIf test) none
  | orElse => exact answered orElse none
  | openFold label => exact answered (openFold label) none
  | close => exact answered close none
  | conditional test body =>
    have := runAll h body
    exact answered (conditional test _) none
  | fold label body =>
    have := runAll h body
    exact answered (fold label _) none
  | abandon => exact throw .abandoned
  | inherited => exact answered h none

/-- Builder steps are confined over every confined action that they inherit. -/
theorem runAll {inherited : Drafting Unit} (h : Confined inherited) (steps : List Step) :
    Confined (Step.runAll inherited steps) := by
  cases steps with
  | nil => exact pure ()
  | cons step rest => exact bind (run h step) fun _ => runAll h rest

end

end Confined

end Drafting

end BuildScript

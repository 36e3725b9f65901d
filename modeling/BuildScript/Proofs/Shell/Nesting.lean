import BuildScript.Proofs.Shell.Call

/-! # Nesting

The calls that spell a script out, and the scripts that calls can build. A builder that has taken
some calls holds a partial reading of them: the calls of its finished nodes and of its open blocks,
from the outside in, are the calls it has taken. So a sequence of calls builds a script exactly if
it spells that script out.
-/

namespace BuildScript.Shell

/-- Arms in the order of a conditional: the first has a test, and only the last may have none. -/
def Branch.Chain (arms : List Branch) : Prop :=
  (∃ first rest, arms = first :: rest ∧ first.test ≠ none) ∧
    ∀ arm ∈ arms.dropLast, arm.test ≠ none

mutual

/-- The arms of every conditional in the node are a chain. -/
def Node.WellFormed : Node → Prop
  | .command _ | .assign _ | .raw _ => True
  | .fold _ body => Script.WellFormed body
  | .conditional arms => Branch.Chain arms ∧ Branch.AllWellFormed arms

def Script.WellFormed : List Node → Prop
  | [] => True
  | n :: rest => n.WellFormed ∧ Script.WellFormed rest

def Branch.AllWellFormed : List Branch → Prop
  | [] => True
  | ⟨_, body⟩ :: rest => Script.WellFormed body ∧ Branch.AllWellFormed rest

end

/-- The call that begins an arm; `first` tells whether the arm begins its conditional. -/
def headCall (first : Bool) : Option String → Call
  | none => .orElse
  | some test => if first then .openConditional test else .elseIf test

mutual

/-- The calls that spell a node out. -/
def Node.calls : Node → List Call
  | .command c => [.command c]
  | .assign e => [.assign e]
  | .raw text => [.raw text]
  | .fold label body => .openFold label :: (Script.calls body ++ [.close])
  | .conditional arms => branchCalls true arms ++ [.close]

def Script.calls : List Node → List Call
  | [] => []
  | n :: rest => n.calls ++ Script.calls rest

def branchCalls (first : Bool) : List Branch → List Call
  | [] => []
  | ⟨test, body⟩ :: rest => headCall first test :: (Script.calls body ++ branchCalls false rest)

end

theorem Script.wellFormed_append {ns ms : List Node} :
    Script.WellFormed (ns ++ ms) ↔ Script.WellFormed ns ∧ Script.WellFormed ms := by
  induction ns with
  | nil => simp [Script.WellFormed]
  | cons n rest ih => simp [Script.WellFormed, ih, and_assoc]

theorem Branch.allWellFormed_append {arms more : List Branch} :
    AllWellFormed (arms ++ more) ↔ AllWellFormed arms ∧ AllWellFormed more := by
  induction arms with
  | nil => simp [AllWellFormed]
  | cons arm rest ih =>
    obtain ⟨test, body⟩ := arm
    simp [AllWellFormed, ih, and_assoc]

theorem Script.calls_append (ns ms : List Node) :
    Script.calls (ns ++ ms) = Script.calls ns ++ Script.calls ms := by
  induction ns with
  | nil => rfl
  | cons n rest ih => simp [Script.calls, ih]

theorem branchCalls_append (first : Bool) (arms more : List Branch) :
    branchCalls first (arms ++ more) =
      branchCalls first arms ++ branchCalls (first && arms.isEmpty) more := by
  induction arms generalizing first with
  | nil => simp [branchCalls]
  | cons arm rest ih =>
    obtain ⟨test, body⟩ := arm
    simp [branchCalls, ih]

theorem Branch.chain_singleton {arm : Branch} (h : arm.test ≠ none) : Chain [arm] :=
  ⟨⟨arm, [], rfl, h⟩, by simp⟩

theorem Branch.Chain.snoc {arms : List Branch} {last next : Branch}
    (h : Chain (arms ++ [last])) (hl : last.test ≠ none) : Chain (arms ++ [last] ++ [next]) := by
  obtain ⟨⟨first, rest, he, hf⟩, ht⟩ := h
  refine ⟨⟨first, rest ++ [next], by rw [he, List.cons_append], hf⟩, ?_⟩
  intro arm harm
  rw [List.dropLast_concat] at harm
  rcases List.mem_append.mp harm with harm | harm
  · exact ht arm (by simpa using harm)
  · obtain rfl : arm = last := by simpa using harm
    exact hl

/-! ## Taking calls apart -/

def Frame.calls : Frame → List Call
  | .fold label body => .openFold label :: Script.calls body
  | .conditional closed test body => branchCalls true (closed ++ [⟨test, body⟩])

theorem Frame.calls_node (f : Frame) : f.node.calls = f.calls ++ [.close] := by
  cases f <;> simp [Frame.node, Node.calls, Frame.calls]

theorem Frame.calls_extend (f : Frame) (ns : List Node) :
    (f.extend ns).calls = f.calls ++ Script.calls ns := by
  cases f with
  | fold label body => simp [Frame.extend, Frame.calls, Script.calls_append]
  | conditional closed test body =>
    simp [Frame.extend, Frame.calls, branchCalls_append, branchCalls, Script.calls_append]

theorem Frame.wellFormed_extend {f : Frame} {ns : List Node} (hf : f.node.WellFormed)
    (hn : Script.WellFormed ns) : (f.extend ns).node.WellFormed := by
  cases f with
  | fold label body => exact Script.wellFormed_append.mpr ⟨hf, hn⟩
  | conditional closed test body =>
    obtain ⟨⟨⟨first, rest, he, ht⟩, hd⟩, hb⟩ := hf
    obtain ⟨hc, hb, -⟩ := Branch.allWellFormed_append.mp hb
    refine ⟨⟨?_, ?_⟩, ?_⟩
    · cases closed with
      | nil =>
        cases he
        exact ⟨_, [], rfl, ht⟩
      | cons arm more =>
        cases he
        exact ⟨_, more ++ [_], rfl, ht⟩
    · rw [List.dropLast_concat] at hd ⊢
      exact hd
    · exact Branch.allWellFormed_append.mpr ⟨hc, Script.wellFormed_append.mpr ⟨hb, hn⟩, trivial⟩

namespace Builder

/-- The calls that a builder has taken: those of its finished nodes, then those of its open
blocks from the outside in. -/
def calls (b : Builder) : List Call :=
  Script.calls b.root ++ b.frames.reverse.flatMap Frame.calls

/-- What has been written is well-formed, and each open block would be if it were closed now. -/
structure Sound (b : Builder) : Prop where
  root : Script.WellFormed b.root
  frames : ∀ f ∈ b.frames, f.node.WellFormed

theorem sound_empty : Sound {} := ⟨trivial, by simp⟩

theorem calls_extend (b : Builder) (ns : List Node) :
    (b.extend ns).calls = b.calls ++ Script.calls ns := by
  obtain ⟨root, frames, finished⟩ := b
  cases frames with
  | nil => simp [extend, calls, Script.calls_append]
  | cons top below => simp [extend, calls, Frame.calls_extend]

theorem Sound.extend {b : Builder} (h : b.Sound) {ns : List Node} (hn : Script.WellFormed ns) :
    (b.extend ns).Sound := by
  obtain ⟨root, frames, finished⟩ := b
  obtain ⟨hr, hf⟩ := h
  cases frames with
  | nil => exact ⟨Script.wellFormed_append.mpr ⟨hr, hn⟩, hf⟩
  | cons top below =>
    refine ⟨hr, List.forall_mem_cons.mpr ⟨?_, fun f hm => hf f (List.mem_cons_of_mem _ hm)⟩⟩
    exact Frame.wellFormed_extend (hf top List.mem_cons_self) hn

theorem calls_push (b : Builder) (f : Frame) :
    calls { b with frames := f :: b.frames } = b.calls ++ f.calls := by
  simp [calls]

theorem Sound.push {b : Builder} (h : b.Sound) {f : Frame} (hf : f.node.WellFormed) :
    Sound { b with frames := f :: b.frames } :=
  ⟨h.root, List.forall_mem_cons.mpr ⟨hf, h.frames⟩⟩

theorem Sound.pop {b : Builder} (h : b.Sound) {top : Frame} {below : List Frame}
    (he : b.frames = top :: below) :
    top.node.WellFormed ∧ Sound { b with frames := below } := by
  have hf := h.frames
  rw [he] at hf
  obtain ⟨ht, hb⟩ := List.forall_mem_cons.mp hf
  exact ⟨ht, h.root, hb⟩

theorem nextArm_spec {b b' : Builder} (h : b.Sound) {name : String} {test : Option String}
    (hn : b.nextArm name test = .ok b') :
    b'.Sound ∧ b'.calls = b.calls ++ [headCall false test] := by
  obtain ⟨closed, last, body, below, he, rfl⟩ := eq_of_nextArm hn
  obtain ⟨⟨hc, ha⟩, hb⟩ := h.pop he
  constructor
  · refine hb.push ⟨hc.snoc (by simp [Branch.test]), ?_⟩
    exact Branch.allWellFormed_append.mpr ⟨ha, trivial, trivial⟩
  · simp [calls, he, Frame.calls, branchCalls_append, branchCalls, Script.calls]

theorem close_spec {b b' : Builder} (h : b.Sound) (hc : b.close = .ok b') :
    b'.Sound ∧ b'.calls = b.calls ++ [.close] := by
  obtain ⟨top, below, he, rfl⟩ := eq_of_close hc
  obtain ⟨ht, hb⟩ := h.pop he
  refine ⟨hb.extend ⟨ht, trivial⟩, ?_⟩
  rw [calls_extend]
  simp [Script.calls, Frame.calls_node, calls, he]

end Builder

/-- A call that succeeds is the last of the calls that the builder has taken then. -/
theorem Call.effect_spec {call : Call} {b b' : Builder} (hb : b.Sound)
    (h : call.effect b = .ok b') : b'.Sound ∧ b'.calls = b.calls ++ [call] := by
  have leaf : ∀ n : Node, n.WellFormed → n.calls = [call] → b.append n = .ok b' →
      b'.Sound ∧ b'.calls = b.calls ++ [call] := by
    intro n hn hc ha
    obtain rfl := Builder.eq_of_append ha
    exact ⟨hb.extend ⟨hn, trivial⟩, by simp [Builder.calls_extend, Script.calls, hc]⟩
  cases call with
  | command c => exact leaf (.command c) trivial rfl (of_mapError h)
  | assign e => exact leaf (.assign e) trivial rfl (of_mapError h)
  | raw text => exact leaf (.raw text) trivial rfl (of_mapError h)
  | openFold label =>
    obtain rfl := Builder.eq_of_push (of_mapError h)
    exact ⟨hb.push trivial, Builder.calls_push b _⟩
  | openConditional test =>
    obtain rfl := Builder.eq_of_push (of_mapError h)
    have hc : Branch.Chain [⟨some test, []⟩] := Branch.chain_singleton (by simp [Branch.test])
    exact ⟨hb.push ⟨hc, trivial, trivial⟩, Builder.calls_push b _⟩
  | elseIf test => exact Builder.nextArm_spec hb (of_mapError h)
  | orElse => exact Builder.nextArm_spec hb (of_mapError h)
  | close => exact Builder.close_spec hb (of_mapError h)
  | refuse f => cases h

theorem Call.runAll_spec {calls : List Call} {d d' : Draft} (hd : d.builder.Sound)
    (h : runAll calls d = (.ok (), d')) :
    d'.builder.Sound ∧ d'.builder.calls = d.builder.calls ++ calls := by
  induction calls generalizing d with
  | nil => cases h; exact ⟨hd, by simp⟩
  | cons call rest ih =>
    rw [runAll_cons] at h
    cases he : call.effect d.builder with
    | error f =>
      rw [Drafting.bind_error (by rw [run_apply, he])] at h
      cases h
    | ok b =>
      rw [Drafting.bind_ok (run_of_effect_ok he)] at h
      obtain ⟨hb, hc⟩ := effect_spec hd he
      obtain ⟨hs, hr⟩ := ih hb h
      exact ⟨hs, by simp [hr, hc]⟩

/-! ## Spelling scripts out -/

theorem mem_dropLast_cons {α : Type} {a b : α} {rest : List α} (h : a ∈ rest.dropLast) :
    a ∈ (b :: rest).dropLast := by
  cases rest with
  | nil => cases h
  | cons c more => exact List.mem_cons_of_mem _ h

open Drafting

theorem writes_then_branchCalls {body : List Node} {rest : List Branch}
    (hb : Writes (Call.runAll (Script.calls body)) () body [])
    (hr : WritesArms (Call.runAll (branchCalls false rest)) [] rest []) :
    WritesArms (Call.runAll (Script.calls body ++ branchCalls false rest)) body rest [] := by
  have h := Writes.bind_arms (k := fun _ => Call.runAll (branchCalls false rest)) hb hr
  simpa using h

mutual

theorem writes_calls (n : Node) (h : n.WellFormed) : Writes (Call.runAll n.calls) () [n] [] := by
  cases n with
  | command c => simpa [Node.calls, Call.run] using writes_append (.command c)
  | assign e => simpa [Node.calls, Call.run, Drafting.assign] using writes_append (.assign e)
  | raw text => simpa [Node.calls, Call.run, Drafting.raw] using writes_append (.raw text)
  | fold label body =>
    have hb := (writes_scriptCalls body h).fold label
    simpa [Node.calls, Call.run, Drafting.fold] using hb
  | conditional arms =>
    obtain ⟨⟨⟨first, more, he, ht⟩, hd⟩, hw⟩ := h
    cases arms with
    | nil => cases he
    | cons arm rest =>
      obtain ⟨test, body⟩ := arm
      have ht : test ≠ none := by cases he; exact ht
      obtain ⟨test, rfl⟩ := Option.ne_none_iff_exists'.mp ht
      have hb := writes_scriptCalls body hw.1
      have hr := writes_branchCalls rest (fun arm ha => hd arm (mem_dropLast_cons ha)) hw.2
      have hc := (writes_then_branchCalls hb hr).conditional test
      simpa [Node.calls, branchCalls, headCall, Call.run, Drafting.conditional] using hc

theorem writes_scriptCalls (ns : List Node) (h : Script.WellFormed ns) :
    Writes (Call.runAll (Script.calls ns)) () ns [] := by
  cases ns with
  | nil => exact Writes.pure ()
  | cons n rest =>
    have hr : Writes (do Call.runAll n.calls; Call.runAll (Script.calls rest)) () ([n] ++ rest)
        ([] ++ []) := (writes_calls n h.1).bind (writes_scriptCalls rest h.2)
    simpa [Script.calls] using hr

theorem writes_branchCalls (arms : List Branch) (hd : ∀ arm ∈ arms.dropLast, arm.test ≠ none)
    (h : Branch.AllWellFormed arms) :
    WritesArms (Call.runAll (branchCalls false arms)) [] arms [] := by
  cases arms with
  | nil => exact (Writes.pure ()).arms
  | cons arm rest =>
    obtain ⟨test, body⟩ := arm
    have hb := writes_scriptCalls body h.1
    cases test with
    | some test =>
      have hr := writes_branchCalls rest (fun arm ha => hd arm (mem_dropLast_cons ha)) h.2
      have hc := WritesArms.elseIf test (k := fun _ => _) (writes_then_branchCalls hb hr)
      simpa [branchCalls, headCall, Call.run] using hc
    | none =>
      cases rest with
      | nil =>
        have hc := WritesArms.orElse (k := fun _ => _) hb
        simpa [branchCalls, headCall, Call.run] using hc
      | cons next more => exact absurd rfl (hd _ List.mem_cons_self)

end

/-! ## Building -/

/-- The script that an action leaves when it starts on a fresh builder, which it then finishes. -/
def built (x : Drafting Unit) : Except Draft.Fault Script := ((do x; finish) {}).1

theorem built_of_writes {x : Drafting Unit} {ns : List Node} {js : Journal}
    (h : Writes x () ns js) : built x = .ok ns := by
  unfold built
  rw [bind_ok (h {} rfl)]
  rfl

theorem built_eq_ok {x : Drafting Unit} {s : Script} (h : built x = .ok s) :
    ∃ d, x {} = (.ok (), d) ∧ d.builder.frames = [] ∧ d.builder.root = s := by
  unfold built at h
  cases hx : x {} with
  | mk result d =>
    cases result with
    | error e => rw [bind_error hx] at h; cases h
    | ok a =>
      rw [bind_ok hx] at h
      cases hf : d.builder.finish with
      | error e => rw [finish_error hf] at h; cases h
      | ok sb =>
        obtain ⟨hn, -, hs, -⟩ := Builder.of_finish hf
        rw [finish_ok hf] at h
        cases h
        exact ⟨d, rfl, hn, hs.symm⟩

/-- Calls build a script exactly if the script is well-formed and they spell it out. -/
theorem built_runAll_iff (calls : List Call) (s : Script) :
    built (Call.runAll calls) = .ok s ↔ Script.WellFormed s ∧ calls = Script.calls s := by
  constructor
  · intro h
    obtain ⟨d, hd, hf, rfl⟩ := built_eq_ok h
    obtain ⟨hs, hc⟩ := Call.runAll_spec Builder.sound_empty hd
    refine ⟨hs.root, ?_⟩
    simpa [Builder.calls, hf, Script.calls] using hc.symm
  · rintro ⟨hw, rfl⟩
    exact built_of_writes (writes_scriptCalls s hw)

/-- The calls of well-formed scripts are exactly those that a fresh builder takes without a
failure, and what it builds from them is the script they spell out. Steps with bodies, and commands
in folds of their own, build what the calls that they come down to build. -/
theorem built_iff_spells (s : Script) :
    (∀ calls : List Call, built (Call.runAll calls) = .ok s ↔
      Script.WellFormed s ∧ calls = Script.calls s) ∧
    (∀ steps : List Step, built (Step.runAll (pure ()) steps) = .ok s ↔
      Script.WellFormed s ∧ Step.callsOf steps = Script.calls s) := by
  refine ⟨fun calls => built_runAll_iff calls s, fun steps => ?_⟩
  rw [Step.runAll_eq]
  exact built_runAll_iff (Step.callsOf steps) s

end BuildScript.Shell

import BuildScript.Proofs.Draft.Writing

/-! # Steady actions

A steady action does the same on every draft that is not finished: either it writes the same nodes
everywhere or it fails everywhere for the same reason. What it writes may be held to a property of
nodes that is kept by composition, and the reasons for which it fails to a set of faults: then
actions made of steady ones are steady in the same way, and so are conditionals whose arms are
written out.
-/

namespace BuildScript.Drafting

open Shell

variable {α β γ : Type}

/-- A property that nodes have when their parts have it. The record of a result is set apart, since
it means something only after the command that it judges. -/
class Kept (P : List Node → Prop) : Prop where
  nil : P []
  append {ns ms : List Node} (hn : P ns) (hm : P ms) : P (ns ++ ms)
  command (c : Command) : P [.command c]
  assign (e : Export) : P [.assign e]
  raw {text : String} (h : text ≠ "cibuild_result $?") : P [.raw text]
  fold (label : String) {ns : List Node} (h : P ns) : P [.fold label ns]
  conditional {branches : List Branch} (h : ∀ arm ∈ branches, P arm.body) :
    P [.conditional branches]

def AnyNodes (_ : List Node) : Prop := True

instance : Kept AnyNodes where
  nil := trivial
  append _ _ := trivial
  command _ := trivial
  assign _ := trivial
  raw _ := trivial
  fold _ _ _ := trivial
  conditional _ := trivial

def Unstructural (f : Draft.Fault) : Prop := ∀ g, f ≠ .structural g

def IsMisuse (f : Draft.Fault) : Prop := ∃ m, f = .misuse m

class Lenient (F : Draft.Fault → Prop) : Prop where
  misuse (m : Setting.Misuse) : F (.misuse m)

instance : Lenient Unstructural := ⟨fun _ _ => nofun⟩

instance : Lenient IsMisuse := ⟨fun m => ⟨m, rfl⟩⟩

def NoFault (_ : Draft.Fault) : Prop := False

/-- A read that ends in a misuse only where this is among the faults. -/
class Admits (F : Draft.Fault → Prop) (r : Except Setting.Misuse α) : Prop where
  misuse {m : Setting.Misuse} (h : r = .error m) : F (.misuse m)

namespace Admits

variable {F : Draft.Fault → Prop} {r : Except Setting.Misuse α} {f : α → Except Setting.Misuse β}

instance [Lenient F] (r : Except Setting.Misuse α) : Admits F r := ⟨fun _ => Lenient.misuse _⟩

instance ok (a : α) : Admits F (.ok a) := ⟨nofun⟩

theorem of_isOk (h : r.isOk = true) : Admits F r := by
  cases r with
  | error m => cases h
  | ok a => exact ok a

theorem bind (hr : Admits F r) (hf : ∀ a, Admits F (f a)) : Admits F (r >>= f) := by
  cases r with
  | error m => exact ⟨fun h => hr.misuse (Except.error.inj h ▸ rfl)⟩
  | ok a => exact hf a

theorem of_ok {a : α} (h : r = .ok a) (hf : Admits F (f a)) : Admits F (r >>= f) := by
  rw [h]
  exact hf

end Admits

inductive Steady (P : List Node → Prop) (F : Draft.Fault → Prop) (x : Drafting α) : Prop
  | writes {a : α} {ns : List Node} {js : Journal} (h : Writes x a ns js) (hp : P ns)
  | fails {f : Draft.Fault} {js : Journal} (h : Fails x f js) (hf : F f)

section Writes

variable {x : Drafting Unit}

def commandNodes (c : Command) (label : String) : List Node :=
  if label = "" then [.command c] else [.fold label [.command c]]

theorem writes_command (c : Command) (label : String) :
    Writes (command c label) () (commandNodes c label) [] := by
  unfold command commandNodes
  split
  · exact writes_append (.command c)
  · exact (writes_append (.command c)).fold label

theorem Writes.forM {g : γ → Drafting Unit} {nodes : γ → List Node}
    (h : ∀ a, Writes (g a) () (nodes a) []) (l : List γ) :
    Writes (l.forM g) () (l.flatMap nodes) [] := by
  induction l with
  | nil => exact Writes.pure ()
  | cons a rest ih => exact (h a).bind ih

end Writes

theorem Kept.flatMap {P : List Node → Prop} [Kept P] {nodes : γ → List Node}
    {l : List γ} (h : ∀ a ∈ l, P (nodes a)) : P (l.flatMap nodes) := by
  induction l with
  | nil => exact nil
  | cons a rest ih =>
    obtain ⟨ha, hr⟩ := List.forall_mem_cons.mp h
    exact append ha (ih hr)

theorem Kept.commandNodes {P : List Node → Prop} [Kept P] (c : Command) (label : String) :
    P (commandNodes c label) := by
  unfold Drafting.commandNodes
  split
  · exact command c
  · exact fold label (command c)

namespace Steady

variable {P : List Node → Prop} [Kept P] {F : Draft.Fault → Prop} {x : Drafting α}
  {k : α → Drafting β}

theorem pure (a : α) : Steady P F (Pure.pure a : Drafting α) := .writes (Writes.pure a) Kept.nil

theorem bind (hx : Steady P F x) (hk : ∀ a, Steady P F (k a)) : Steady P F (x >>= k) := by
  cases hx with
  | fails h hf => exact .fails h.bind hf
  | @writes a ns js h hp =>
    cases hk a with
    | writes h' hp' => exact .writes (h.bind h') (Kept.append hp hp')
    | fails h' hf => exact .fails (h.bind_fails h') hf

omit [Kept P] in
theorem choice {c : Prop} [Decidable c] {y z : Drafting α} (hy : c → Steady P F y)
    (hz : ¬c → Steady P F z) : Steady P F (if c then y else z) := by
  split
  · next h => exact hy h
  · next h => exact hz h

omit [Kept P] in
theorem ite {c : Prop} [Decidable c] {y z : Drafting α} (hy : Steady P F y) (hz : Steady P F z) :
    Steady P F (if c then y else z) := choice (fun _ => hy) fun _ => hz

theorem when {c : Prop} [Decidable c] {x : Drafting Unit} {k : Unit → Drafting β}
    (hx : Steady P F x) (hk : Steady P F (k ())) : Steady P F (if c then x >>= k else k ()) :=
  ite (bind hx fun _ => hk) hk

theorem assign (e : Export) : Steady P F (assign e) := .writes (writes_append _) (Kept.assign e)

theorem raw {text : String} (h : text ≠ "cibuild_result $?") : Steady P F (raw text) :=
  .writes (writes_append _) (Kept.raw h)

theorem newline : Steady P F newline := raw (by decide)

theorem note (n : Notice) : Steady P F (note n) := .writes (writes_note n) Kept.nil

theorem command (c : Command) (label : String) : Steady P F (command c label) :=
  .writes (writes_command c label) (Kept.commandNodes c label)

theorem message (text : String) (color : Option Color) : Steady P F (message text color) :=
  command _ _

omit [Kept P] in
theorem throw {f : Draft.Fault} (hf : F f) : Steady P F (throw f : Drafting α) :=
  .fails (fails_throw f) hf

omit [Kept P] in
theorem read_bind {r : Except Setting.Misuse α} (hr : Admits F r)
    (hk : ∀ a, r = .ok a → Steady P F (k a)) : Steady P F (Drafting.read r >>= k) := by
  cases r with
  | ok a =>
    change Steady P F (Pure.pure a >>= k)
    rw [pure_bind]
    exact hk a rfl
  | error m => exact .fails (fails_throw (.misuse m)).bind (hr.misuse rfl)

theorem read (r : Except Setting.Misuse α) [hr : Admits F r] : Steady P F (read r) := by
  cases r with
  | ok a => exact pure a
  | error m => exact throw (hr.misuse rfl)

theorem fold (label : String) {x : Drafting Unit} (hx : Steady P F x) :
    Steady P F (fold label x) := by
  cases hx with
  | writes h hp => exact .writes (h.fold label) (Kept.fold label hp)
  | fails h hf => exact .fails (h.fold label) hf

theorem conditional (test : String) {x : Drafting Unit} {own : List Node} {later : List Branch}
    {js : Journal} (hx : WritesArms x own later js) (ho : P own) (hl : ∀ arm ∈ later, P arm.body) :
    Steady P F (conditional test x) :=
  .writes (hx.conditional test) (Kept.conditional (List.forall_mem_cons.mpr ⟨ho, hl⟩))

theorem forM {g : γ → Drafting Unit} {l : List γ} (h : ∀ a ∈ l, Steady P F (g a)) :
    Steady P F (l.forM g) := by
  induction l with
  | nil => exact pure ()
  | cons a rest ih =>
    exact bind (h a List.mem_cons_self) fun _ => ih fun b hb => h b (List.mem_cons_of_mem _ hb)

end Steady

/-! ## Actions by themselves -/

/-- The nodes that an action writes on a fresh builder. -/
def alone (x : Drafting α) : List Node := (x {}).2.builder.root

section Alone

variable {P : List Node → Prop} {F : Draft.Fault → Prop} {x : Drafting α} {k : α → Drafting β}
  {a : α} {b : β} {ns : List Node} {js : Journal}

theorem Writes.apply_empty (h : Writes x a ns js) : x {} = (.ok a, ⟨{ root := ns }, js⟩) := h {} rfl

theorem Writes.alone_eq (h : Writes x a ns js) : alone x = ns := by
  rw [alone, h.apply_empty]

theorem Writes.not_fails {f : Draft.Fault} {ls : Journal} (h : Writes x a ns js) :
    ¬Fails x f ls := by
  intro hf
  obtain ⟨b, hb⟩ := hf {} rfl
  cases hb.symm.trans h.apply_empty

theorem Writes.of_read_bind {r : Except Setting.Misuse α} (h : Writes (read r >>= k) b ns js) :
    ∃ a, r = .ok a ∧ Writes (k a) b ns js := by
  cases r with
  | error m => exact absurd (fails_throw (.misuse m)).bind h.not_fails
  | ok a => exact ⟨a, rfl, h⟩

theorem Steady.of_writes (hx : Steady P F x) (h : Writes x a ns js) : P ns := by
  cases hx with
  | fails hf _ => exact absurd hf h.not_fails
  | writes hw hp =>
    cases hw.apply_empty.symm.trans h.apply_empty
    exact hp

theorem Steady.of_bind {Q : List Node → Prop} (hx : Steady P F x) (hk : ∀ a, Steady Q F (k a))
    (h : Writes (x >>= k) b ns js) :
    ∃ a as ls, Writes x a (alone x) as ∧ Writes (k a) b (alone (k a)) ls ∧
      ns = alone x ++ alone (k a) := by
  cases hx with
  | fails hf _ => exact absurd hf.bind h.not_fails
  | @writes a ms as hw =>
    cases hk a with
    | fails hf _ => exact absurd (hw.bind_fails hf) h.not_fails
    | writes hw' =>
      cases (hw.bind hw').apply_empty.symm.trans h.apply_empty
      exact ⟨a, as, _, by rwa [hw.alone_eq], by rwa [hw'.alone_eq], by
        rw [hw.alone_eq, hw'.alone_eq]⟩

/-- A steady action that succeeds on some draft writes what it writes by itself. -/
theorem Steady.writes_of_ok (hx : Steady P F x) {d d' : Draft}
    (hd : d.builder.finished = false) (h : x d = (.ok a, d')) :
    ∃ js, Writes x a (alone x) js ∧ d' = ⟨d.builder.extend (alone x), d.journal ++ js⟩ := by
  cases hx with
  | fails hf _ =>
    obtain ⟨b, hb⟩ := hf d hd
    cases hb.symm.trans h
  | writes hw =>
    cases (hw d hd).symm.trans h
    exact ⟨_, by rwa [hw.alone_eq], by rw [hw.alone_eq]⟩

theorem Writes.forM_alone {g : γ → Drafting Unit} {l : List γ}
    (h : ∀ a ∈ l, ∃ js, Writes (g a) () (alone (g a)) js) :
    ∃ js, Writes (l.forM g) () (l.flatMap fun a => alone (g a)) js := by
  induction l with
  | nil => exact ⟨[], Writes.pure ()⟩
  | cons a rest ih =>
    obtain ⟨⟨js, hw⟩, hr⟩ := List.forall_mem_cons.mp h
    obtain ⟨ls, hl⟩ := ih hr
    exact ⟨js ++ ls, hw.bind hl⟩

/-- Steady actions one after the other write what each writes by itself, or one of them fails. -/
theorem Steady.forM_writes_or_fails {g : γ → Drafting Unit} {l : List γ}
    (h : ∀ a ∈ l, Steady P F (g a)) :
    ((∀ a ∈ l, ∃ js, Writes (g a) () (alone (g a)) js) ∧
      ∃ js, Writes (l.forM g) () (l.flatMap fun a => alone (g a)) js) ∨
    ∃ f js, Fails (l.forM g) f js ∧ F f := by
  induction l with
  | nil => exact .inl ⟨List.forall_mem_nil _, _, Writes.pure ()⟩
  | cons a rest ih =>
    cases h a List.mem_cons_self with
    | fails hf hs => exact .inr ⟨_, _, hf.bind, hs⟩
    | @writes u ns js hw =>
      rw [← hw.alone_eq] at hw
      rcases ih fun b hb => h b (List.mem_cons_of_mem _ hb) with
        ⟨he, ls, hr⟩ | ⟨f, ls, hr, hs⟩
      · exact .inl ⟨List.forall_mem_cons.mpr ⟨⟨js, hw⟩, he⟩, js ++ ls, hw.bind hr⟩
      · exact .inr ⟨f, js ++ ls, hw.bind_fails hr, hs⟩

end Alone

end BuildScript.Drafting

import BuildScript.Proofs.Draft.Steady

/-! # Actions that concur

Two actions concur when, on every draft that is not finished, they answer the same and write the
same nodes, or fail with the same fault. What they note may differ. What is composed of concurring
actions in the same way concurs, and what is only noted does not count.
-/

namespace BuildScript.Drafting

open Shell

variable {α β γ : Type}

inductive Concur (x y : Drafting α) : Prop
  | writes {a : α} {ns : List Node} {js ls : Journal} (hx : Writes x a ns js)
    (hy : Writes y a ns ls)
  | fails {f : Draft.Fault} {js ls : Journal} (hx : Fails x f js) (hy : Fails y f ls)

theorem Fails.eq {x : Drafting α} {f g : Draft.Fault} {js ls : Journal} (h : Fails x f js)
    (h' : Fails x g ls) : f = g := by
  obtain ⟨_, he⟩ := h {} rfl
  obtain ⟨_, he'⟩ := h' {} rfl
  cases he.symm.trans he'
  rfl

namespace Concur

variable {x y z : Drafting α} {k l : α → Drafting β}

theorem of_steady (hx : Steady AnyNodes Unstructural x) : Concur x x := by
  cases hx with
  | writes h _ => exact .writes h h
  | fails h _ => exact .fails h h

theorem symm (h : Concur x y) : Concur y x := by
  cases h with
  | writes hx hy => exact .writes hy hx
  | fails hx hy => exact .fails hy hx

theorem trans (h : Concur x y) (h' : Concur y z) : Concur x z := by
  cases h with
  | writes hx hy =>
    cases h' with
    | writes hy' hz =>
      cases hy.apply_empty.symm.trans hy'.apply_empty
      exact .writes hx hz
    | fails hy' _ => exact absurd hy' hy.not_fails
  | fails hx hy =>
    cases h' with
    | writes hy' _ => exact absurd hy hy'.not_fails
    | fails hy' hz =>
      cases hy.eq hy'
      exact .fails hx hz

theorem bind (hx : Concur x y) (hk : ∀ a, Concur (k a) (l a)) : Concur (x >>= k) (y >>= l) := by
  cases hx with
  | fails hx hy => exact .fails hx.bind hy.bind
  | @writes a _ _ _ hx hy =>
    cases hk a with
    | writes hx' hy' => exact .writes (hx.bind hx') (hy.bind hy')
    | fails hx' hy' => exact .fails (hx.bind_fails hx') (hy.bind_fails hy')

theorem then_bind (hx : Steady AnyNodes Unstructural x) (hk : ∀ a, Concur (k a) (l a)) :
    Concur (x >>= k) (x >>= l) :=
  bind (of_steady hx) hk

theorem drop_left {w : Drafting Unit} {k : Unit → Drafting α} (hw : Concur w (pure ()))
    (hk : Concur (k ()) y) : Concur (w >>= k) y := by
  have h := bind (l := fun _ => y) hw fun _ => hk
  rwa [pure_bind] at h

theorem note (n : Notice) : Concur (note n) (Pure.pure ()) :=
  .writes (writes_note n) (Writes.pure ())

theorem of_writes {a : α} {ns : List Node} {js : Journal} (h : Concur x y) (hx : Writes x a ns js) :
    ∃ ls, Writes y a ns ls := by
  cases h with
  | writes hx' hy =>
    cases hx'.apply_empty.symm.trans hx.apply_empty
    exact ⟨_, hy⟩
  | fails hx' _ => exact absurd hx' hx.not_fails

theorem forM {g h : γ → Drafting Unit} {as : List γ} (hgh : ∀ a ∈ as, Concur (g a) (h a)) :
    Concur (as.forM g) (as.forM h) := by
  induction as with
  | nil => exact .writes (Writes.pure ()) (Writes.pure ())
  | cons a rest ih =>
    obtain ⟨ha, hr⟩ := List.forall_mem_cons.mp hgh
    exact bind ha fun _ => ih hr

end Concur

end BuildScript.Drafting

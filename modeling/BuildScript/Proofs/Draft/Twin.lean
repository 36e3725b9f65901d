import BuildScript.Proofs.Draft.Steady
import BuildScript.Proofs.Shell.Veil

/-! # Twin actions

Two actions are twins when, on every draft that is not finished, they answer and note the same and
write nodes with the same veil, or fail with the same fault. What is composed of twins in the same
way is a pair of twins.
-/

namespace BuildScript.Drafting

open Shell

variable {α β γ : Type}

inductive Twin (x y : Drafting α) : Prop
  | writes {a : α} {ns ms : List Node} {js : Journal} (hx : Writes x a ns js)
    (hy : Writes y a ms js) (hv : veil ns = veil ms)
  | fails {f : Draft.Fault} {js : Journal} (hx : Fails x f js) (hy : Fails y f js)

namespace Twin

variable {x y : Drafting α} {k l : α → Drafting β}

theorem of_steady (hx : Steady AnyNodes Unstructural x) : Twin x x := by
  cases hx with
  | writes h _ => exact .writes h h rfl
  | fails h _ => exact .fails h h

theorem of_eq (h : x = y) (hy : Steady AnyNodes Unstructural y) : Twin x y := by
  rw [h]
  exact of_steady hy

theorem bind (hx : Twin x y) (hk : ∀ a, Twin (k a) (l a)) : Twin (x >>= k) (y >>= l) := by
  cases hx with
  | fails hx hy => exact .fails hx.bind hy.bind
  | @writes a ns ms js hx hy hv =>
    cases hk a with
    | fails hx' hy' => exact .fails (hx.bind_fails hx') (hy.bind_fails hy')
    | writes hx' hy' hv' =>
      exact .writes (hx.bind hx') (hy.bind hy') (by rw [veil_append, veil_append, hv, hv'])

theorem then_bind (hx : Steady AnyNodes Unstructural x) (hk : ∀ a, Twin (k a) (l a)) :
    Twin (x >>= k) (x >>= l) :=
  bind (of_steady hx) hk

theorem ite {c : Prop} [Decidable c] {x y z w : Drafting α} (hx : Twin x y) (hz : Twin z w) :
    Twin (if c then x else z) (if c then y else w) := by
  split
  · exact hx
  · exact hz

theorem when {c : Prop} [Decidable c] {x : Drafting Unit} {k l : Unit → Drafting β}
    (hx : Steady AnyNodes Unstructural x) (hk : Twin (k ()) (l ())) :
    Twin (if c then x >>= k else k ()) (if c then x >>= l else l ()) :=
  ite (then_bind hx fun _ => hk) hk

theorem append {n m : Node} (h : veil [n] = veil [m]) :
    Twin (Drafting.append n) (Drafting.append m) :=
  .writes (writes_append n) (writes_append m) h

theorem fold (label : String) {x y : Drafting Unit} (h : Twin x y) :
    Twin (Drafting.fold label x) (Drafting.fold label y) := by
  cases h with
  | writes hx hy hv => exact .writes (hx.fold label) (hy.fold label) (veil_fold label hv)
  | fails hx hy => exact .fails (hx.fold label) (hy.fold label)

theorem command {c d : Command} (h : c.redacted = d.redacted) :
    Twin (Drafting.command c) (Drafting.command d) :=
  append (congrArg (fun e => [Outline.command e]) h)

theorem assign {e f : Export} (h : e.redacted = f.redacted) :
    Twin (Drafting.assign e) (Drafting.assign f) :=
  append (congrArg (fun e => [Outline.assign e]) h)

theorem forM {R : γ → γ → Prop} {g h : γ → Drafting Unit} (hgh : ∀ a b, R a b → Twin (g a) (h b))
    {as bs : List γ} (hab : List.Forall₂ R as bs) : Twin (as.forM g) (bs.forM h) := by
  induction hab with
  | nil => exact of_steady (.pure ())
  | cons hr _ ih => exact bind (hgh _ _ hr) fun _ => ih

end Twin

end BuildScript.Drafting

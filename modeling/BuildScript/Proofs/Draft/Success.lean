import BuildScript.Proofs.Draft.Steady

/-! # Actions that succeed

What is known of an action that succeeds on some draft: its parts succeed as well, and every read
that it has come past has been answered.
-/

namespace BuildScript.Drafting

open Shell

variable {α β γ : Type}

def Succeeds (x : Drafting α) : Prop := ∃ d a d', x d = (.ok a, d')

theorem Writes.succeeds {x : Drafting α} {a : α} {ns : List Node} {js : Journal}
    (h : Writes x a ns js) : Succeeds x := ⟨{}, a, _, h.apply_empty⟩

namespace Succeeds

variable {x : Drafting α} {k : α → Drafting β}

theorem of_bind (h : Succeeds (x >>= k)) : Succeeds x ∧ ∃ a, Succeeds (k a) := by
  obtain ⟨d, b, d', h⟩ := h
  cases hx : x d with
  | mk result e =>
    cases result with
    | error f =>
      rw [bind_error hx] at h
      cases h
    | ok a =>
      rw [bind_ok hx] at h
      exact ⟨⟨d, a, e, hx⟩, a, e, b, d', h⟩

theorem of_then {x : Drafting Unit} {k : Unit → Drafting β} (h : Succeeds (x >>= k)) :
    Succeeds (k ()) := by
  obtain ⟨_, hk⟩ := h.of_bind.2
  exact hk

theorem of_read_bind {r : Except Setting.Misuse α} (h : Succeeds (read r >>= k)) :
    ∃ a, r = .ok a ∧ Succeeds (k a) := by
  cases r with
  | ok a => exact ⟨a, rfl, h⟩
  | error m =>
    obtain ⟨_, _, _, h⟩ := h
    cases h

theorem of_fold {label : String} {x : Drafting Unit} (h : Succeeds (fold label x)) : Succeeds x := by
  have opened : Succeeds (openFold label >>= fun _ => x >>= fun _ => close) := h
  exact opened.of_then.of_bind.1

theorem of_forM {g : γ → Drafting Unit} {l : List γ} (h : Succeeds (l.forM g)) :
    ∀ a ∈ l, Succeeds (g a) := by
  induction l with
  | nil => exact List.forall_mem_nil _
  | cons a rest ih =>
    have split : Succeeds (g a >>= fun _ => rest.forM g) := h
    exact List.forall_mem_cons.mpr ⟨split.of_bind.1, ih split.of_then⟩

end Succeeds

end BuildScript.Drafting

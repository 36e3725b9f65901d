import BuildScript.Proofs.Setting.Distinct

/-! # Keys of entries

Scalars that name the same entry are named alike by every other. So what entries hold under any key
after they have been written over others, and the order of their keys, can be told where the keys
that are written are distinct.
-/

namespace BuildScript

namespace Scalar

def isNaN : Scalar → Bool
  | .float x => x.isNaN
  | _ => false

variable {a b c : Scalar} {n : Int}

theorem isNaN_of_toInt? (h : a.toInt? = some n) : a.isNaN = false := by
  cases a with
  | float x =>
    change x.toInt? = some n at h
    unfold Binary64.toInt? at h
    split at h
    · cases h
    · next he => simp [isNaN, Binary64.isNaN, he]
  | null | bool | int | text => rfl

theorem sameKey_of_toInt? (h : a.toInt? = some n) : a.sameKey b = true ↔ b.toInt? = some n := by
  have hn := isNaN_of_toInt? h
  have hs : a.sameKey b = true ↔ a = b ∨ some n = b.toInt? := by
    cases a <;> cases b <;> simp_all [sameKey, toInt?, isNaN]
    rintro rfl
    exact h.symm
  rw [hs, eq_comm (a := some n)]
  exact ⟨fun hb => hb.elim (fun he => he ▸ h) id, .inr⟩

theorem sameKey_of_toInt?_none (h : a.toInt? = none) :
    a.sameKey b = true ↔ a.isNaN = false ∧ a = b := by
  cases a <;> cases b <;> simp_all [sameKey, toInt?, isNaN]

theorem sameKey_self (h : a.isNaN = false) : a.sameKey a = true := by
  cases ha : a.toInt? with
  | some n => exact (sameKey_of_toInt? ha).mpr ha
  | none => exact (sameKey_of_toInt?_none ha).mpr ⟨h, rfl⟩

theorem sameKey_symm (h : a.sameKey b = true) : b.sameKey a = true := by
  cases ha : a.toInt? with
  | some n => exact (sameKey_of_toInt? ((sameKey_of_toInt? ha).mp h)).mpr ha
  | none =>
    obtain ⟨-, rfl⟩ := (sameKey_of_toInt?_none ha).mp h
    exact h

theorem sameKey_trans (h : a.sameKey b = true) (h' : b.sameKey c = true) : a.sameKey c = true := by
  cases ha : a.toInt? with
  | some n =>
    have hb := (sameKey_of_toInt? ha).mp h
    exact (sameKey_of_toInt? ha).mpr ((sameKey_of_toInt? hb).mp h')
  | none =>
    obtain ⟨-, rfl⟩ := (sameKey_of_toInt?_none ha).mp h
    exact h'

theorem sameKey_congr_left (h : a.sameKey b = true) (c : Scalar) : a.sameKey c = b.sameKey c :=
  Bool.eq_iff_iff.mpr ⟨sameKey_trans (sameKey_symm h), sameKey_trans h⟩

theorem sameKey_congr_right (h : a.sameKey b = true) (c : Scalar) : c.sameKey a = c.sameKey b :=
  Bool.eq_iff_iff.mpr ⟨fun hc => sameKey_trans hc h, fun hc => sameKey_trans hc (sameKey_symm h)⟩

end Scalar

namespace Entries

variable {es base : Entries} {k k' : Scalar}

theorem get?_congr (h : k.sameKey k' = true) (es : Entries) : get? es k = get? es k' := by
  unfold get?
  simp only [Scalar.sameKey_congr_right h]

/-- What is put under a key is found under all that name the same entry, and nothing else
changes. -/
theorem get?_put (es : Entries) (k k' : Scalar) (v : Setting) :
    get? (put es k v) k' = if k.sameKey k' then some v else get? es k' := by
  induction es with
  | nil => exact get?_cons _ _ _
  | cons e rest ih =>
    unfold put
    split
    · next hk =>
      rw [get?_cons, get?_cons, Scalar.sameKey_congr_left hk]
      split <;> rfl
    · next hk =>
      rw [get?_cons, get?_cons, ih]
      split
      · next he =>
        rw [if_neg fun h => hk (Scalar.sameKey_trans he (Scalar.sameKey_symm h))]
      · rfl

theorem Distinct.get?_tail_of_sameKey {v : Setting} (h : Distinct ((k, v) :: es))
    (hk : k.sameKey k' = true) : get? es k' = none := by
  have hn : ∀ e ∈ es, ¬e.1.sameKey k' = true := by
    intro e he hs
    have hf := (List.pairwise_cons.mp h).1 e he
    rw [Scalar.sameKey_trans hk (Scalar.sameKey_symm hs)] at hf
    cases hf
  rw [get?, List.find?_eq_none.mpr hn]
  rfl

theorem Distinct.get?_overlay_key (h : es.Distinct) (base : Entries) (k : Scalar) :
    get? (Setting.overlay base es) k = match get? es k with
      | some v => some (Setting.overlaid (get? base k) v)
      | none => get? base k := by
  induction es generalizing base with
  | nil => rfl
  | cons e rest ih =>
    obtain ⟨key, v⟩ := e
    rw [Setting.overlay, ih (List.pairwise_cons.mp h).2, get?_put, get?_cons]
    by_cases hk : key.sameKey k = true
    · rw [if_pos hk, if_pos hk, h.get?_tail_of_sameKey hk, get?_congr hk]
    · rw [if_neg hk, if_neg hk]

def added (base es : Entries) : List Scalar :=
  (es.filter fun e => (get? base e.1).isNone).map Prod.fst

theorem keys_put (es : Entries) (k : Scalar) (v : Setting) :
    (put es k v).map Prod.fst = es.map Prod.fst ++ if (get? es k).isNone then [k] else [] := by
  induction es with
  | nil => rfl
  | cons e rest ih =>
    unfold put
    rw [get?_cons]
    split
    · simp
    · simp [ih]

theorem Distinct.keys_overlay (h : es.Distinct) (base : Entries) :
    (Setting.overlay base es).map Prod.fst = base.map Prod.fst ++ added base es := by
  induction es generalizing base with
  | nil => exact (List.append_nil _).symm
  | cons e rest ih =>
    obtain ⟨key, v⟩ := e
    obtain ⟨hk, hr⟩ := List.pairwise_cons.mp h
    have later : ∀ w, added (Entries.put base key w) rest = added base rest := by
      intro w
      unfold added
      refine congrArg _ (List.filter_congr fun e he => ?_)
      rw [get?_put, hk e he]
      rfl
    have first : added base ((key, v) :: rest) =
        (if (get? base key).isNone then [key] else []) ++ added base rest := by
      unfold added
      rw [List.filter_cons]
      split <;> rfl
    rw [Setting.overlay, ih hr, keys_put, later, first, List.append_assoc]

end Entries

end BuildScript

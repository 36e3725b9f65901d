import BuildScript.Proofs.Setting.SameBut

/-! # Entries with distinct keys

Entries that are put one after another have distinct keys. When such entries are written over
defaults, what they hold under a name that the defaults lack is what they held before.
-/

namespace BuildScript.Entries

/-- No entry stands under the key of one before it. -/
def Distinct (es : Entries) : Prop := es.Pairwise fun e f => e.1.sameKey f.1 = false

instance (es : Entries) : Decidable es.Distinct :=
  inferInstanceAs (Decidable (List.Pairwise _ es))

variable {es base : Entries} {name : String}

theorem mem_put {k : Scalar} {v : Setting} {e : Scalar × Setting} (h : e ∈ put es k v) :
    e.1 = k ∨ ∃ f ∈ es, e.1 = f.1 := by
  induction es with
  | nil => exact .inl (List.mem_singleton.mp h ▸ rfl)
  | cons f rest ih =>
    unfold put at h
    split at h
    · rcases List.mem_cons.mp h with rfl | hr
      · exact .inr ⟨f, List.mem_cons_self, rfl⟩
      · exact .inr ⟨e, List.mem_cons_of_mem _ hr, rfl⟩
    · rcases List.mem_cons.mp h with rfl | hr
      · exact .inr ⟨f, List.mem_cons_self, rfl⟩
      · rcases ih hr with hk | ⟨g, hg, hk⟩
        · exact .inl hk
        · exact .inr ⟨g, List.mem_cons_of_mem _ hg, hk⟩

theorem Distinct.put (h : es.Distinct) (k : Scalar) (v : Setting) : (put es k v).Distinct := by
  induction es with
  | nil => exact List.pairwise_singleton _ _
  | cons e rest ih =>
    obtain ⟨he, hr⟩ := List.pairwise_cons.mp h
    unfold Entries.put
    split
    · exact List.pairwise_cons.mpr ⟨he, hr⟩
    · next hk =>
      refine List.pairwise_cons.mpr ⟨fun f hf => ?_, ih hr⟩
      rcases mem_put hf with hq | ⟨g, hg, hq⟩
      · rw [hq]
        exact Bool.eq_false_iff.mpr hk
      · rw [hq]
        exact he g hg

/-- Entries that are read from a text or a file are put one after another. -/
theorem distinct_ofList (pairs : List (Scalar × Setting)) : (ofList pairs).Distinct := by
  have from_any : ∀ es : Entries, es.Distinct →
      (pairs.foldl (fun entries e => put entries e.1 e.2) es).Distinct := by
    induction pairs with
    | nil => exact fun _ h => h
    | cons e rest ih => exact fun es h => ih _ (h.put e.1 e.2)
  exact from_any [] .nil

theorem get?_put_text_self (v : Setting) :
    get? (put es (.text name) v) (.text name) = some v := by
  induction es with
  | nil => exact get?_text_cons_self v []
  | cons e rest ih =>
    unfold put
    split
    · next hk => rw [get?_cons, if_pos hk]
    · next hk => rw [get?_cons, if_neg hk, ih]

theorem Distinct.get?_tail {v : Setting} (h : Distinct ((.text name, v) :: es)) :
    get? es (.text name) = none := by
  have hn : ∀ e ∈ es, ¬e.1.sameKey (.text name) = true := by
    intro e he hk
    have hf := (List.pairwise_cons.mp h).1 e he
    rw [Scalar.text_sameKey.mpr (Scalar.sameKey_text.mp hk)] at hf
    cases hf
  rw [get?, List.find?_eq_none.mpr hn]
  rfl

theorem get?_overlay_of_none (h : get? es (.text name) = none) :
    get? (Setting.overlay base es) (.text name) = get? base (.text name) := by
  induction es generalizing base with
  | nil => rfl
  | cons e rest ih =>
    obtain ⟨k, v⟩ := e
    have hk : k ≠ .text name := by
      rintro rfl
      rw [get?_text_cons_self] at h
      cases h
    rw [get?_text_cons_of_ne hk] at h
    rw [Setting.overlay, ih h, get?_put_of_ne hk]

theorem Distinct.get?_overlay (h : es.Distinct) (hb : get? base (.text name) = none) :
    get? (Setting.overlay base es) (.text name) = get? es (.text name) := by
  induction es generalizing base with
  | nil => exact hb
  | cons e rest ih =>
    obtain ⟨k, v⟩ := e
    rw [Setting.overlay]
    by_cases hk : k = .text name
    · subst hk
      rw [get?_overlay_of_none h.get?_tail, hb, SameBut.overlaid_none, get?_put_text_self,
        get?_text_cons_self]
    · rw [get?_text_cons_of_ne hk]
      exact ih (List.pairwise_cons.mp h).2 ((get?_put_of_ne hk _).trans hb)

end BuildScript.Entries

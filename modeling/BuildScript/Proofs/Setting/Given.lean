import BuildScript.Proofs.Setting.Distinct

/-! # What is given under a name

The settings that entries hold under one name, first to last. What stands under the name after an
overlay depends on these and on the default alone, so that writing or erasing another name changes
nothing there.
-/

namespace BuildScript.Entries

/-- The settings under a name, in their order. Entries with distinct keys hold one at most. -/
def given (es : Entries) (name : String) : List Setting :=
  (es.filter fun e => decide (e.1 = .text name)).map Prod.snd

variable {es base : Entries} {name other : String}

theorem given_cons_self (s : Setting) (es : Entries) :
    given ((.text name, s) :: es) name = s :: given es name := by
  simp [given]

theorem given_cons_of_ne {e : Scalar × Setting} (he : e.1 ≠ .text name) :
    given (e :: es) name = given es name := by
  simp [given, he]

theorem get?_eq_head?_given (es : Entries) (name : String) :
    get? es (.text name) = (given es name).head? := by
  induction es with
  | nil => rfl
  | cons e rest ih =>
    obtain ⟨k, s⟩ := e
    by_cases hk : k = .text name
    · subst hk
      rw [get?_text_cons_self, given_cons_self]
      rfl
    · rw [get?_text_cons_of_ne hk, given_cons_of_ne hk, ih]

theorem get_eq_of_given {fs : Entries} (h : given es name = given fs name) :
    get es name = get fs name := by
  rw [get, get, get?_eq_head?_given, get?_eq_head?_given, h]

theorem get?_overlay (base es : Entries) (name : String) :
    get? (Setting.overlay base es) (.text name) =
      (given es name).foldl (fun below s => some (Setting.overlaid below s))
        (get? base (.text name)) := by
  induction es generalizing base with
  | nil => rfl
  | cons e rest ih =>
    obtain ⟨k, s⟩ := e
    rw [Setting.overlay, ih]
    by_cases hk : k = .text name
    · subst hk
      rw [get?_put_text_self, given_cons_self, List.foldl_cons]
    · rw [get?_put_of_ne hk, given_cons_of_ne hk]

theorem exists_get?_overlay {s : Setting} (hb : get? base (.text name) = some s) (es : Entries) :
    ∃ t, get? (Setting.overlay base es) (.text name) = some t := by
  rw [get?_overlay, hb]
  clear hb
  induction given es name generalizing s with
  | nil => exact ⟨s, rfl⟩
  | cons first rest ih => exact ih

theorem Distinct.given_eq (h : es.Distinct) (name : String) :
    given es name = (get? es (.text name)).toList := by
  induction es with
  | nil => rfl
  | cons e rest ih =>
    obtain ⟨k, s⟩ := e
    have ht := ih (List.pairwise_cons.mp h).2
    by_cases hk : k = .text name
    · subst hk
      rw [given_cons_self, ht, h.get?_tail, get?_text_cons_self]
      rfl
    · rw [given_cons_of_ne hk, ht, get?_text_cons_of_ne hk]

theorem Distinct.get?_overlay_eq (h : es.Distinct) (base : Entries) (name : String) :
    get? (Setting.overlay base es) (.text name) =
      ((get? es (.text name)).map (Setting.overlaid (get? base (.text name)))).or
        (get? base (.text name)) := by
  rw [Entries.get?_overlay, h.given_eq]
  cases get? es (.text name) <;> rfl

theorem given_erase_self (es : Entries) (name : String) : given (erase es name) name = [] := by
  rw [given, List.map_eq_nil_iff, List.filter_eq_nil_iff]
  intro e he hk
  have hn := (List.mem_filter.mp he).2
  rw [Scalar.sameKey_text.mpr (decide_eq_true_iff.mp hk)] at hn
  cases hn

theorem get?_erase_self (es : Entries) (name : String) :
    get? (erase es name) (.text name) = none := by
  rw [get?_eq_head?_given, given_erase_self, List.head?_nil]

section Others

variable (hn : name ≠ other)
include hn

theorem given_put_of_ne (es : Entries) (s : Setting) :
    given (put es (.text other) s) name = given es name := by
  have ht : Scalar.text other ≠ .text name := fun h => hn (Scalar.text.inj h).symm
  induction es with
  | nil => exact given_cons_of_ne ht
  | cons e rest ih =>
    unfold put
    split
    · next hk =>
      have he : e.1 ≠ .text name := fun h => ht (Scalar.sameKey_text.mp hk ▸ h)
      rw [given_cons_of_ne he]
      exact given_cons_of_ne he
    · by_cases he : e.1 = .text name
      · obtain ⟨k, t⟩ := e
        subst he
        rw [given_cons_self, given_cons_self, ih]
      · rw [given_cons_of_ne he, given_cons_of_ne he, ih]

theorem given_erase_of_ne (es : Entries) : given (erase es other) name = given es name := by
  have hk (e : Scalar × Setting) : (decide (e.1 = .text name) && !e.1.sameKey (.text other)) =
      decide (e.1 = .text name) := by
    by_cases he : e.1 = .text name
    · have ho : ¬e.1.sameKey (.text other) = true := fun h =>
        hn (Scalar.text.inj (he.symm.trans (Scalar.sameKey_text.mp h)))
      rw [decide_eq_true he, Bool.eq_false_iff.mpr ho]
      rfl
    · rw [decide_eq_false he, Bool.false_and]
  simp only [given, erase, List.filter_filter, hk]

end Others

end BuildScript.Entries

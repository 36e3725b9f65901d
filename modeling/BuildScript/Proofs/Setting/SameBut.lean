import BuildScript.Setting.Overlay

/-! # Entries that differ in one place

Entries that are the same but for the setting under one name. They are read alike under every other
name, and they stay the same but for that setting when they are written over defaults without it.
-/

namespace BuildScript

namespace Scalar

variable {k : Scalar} {name : String}

theorem sameKey_text : k.sameKey (.text name) = true ↔ k = .text name := by
  cases k <;> simp [sameKey]

theorem text_sameKey : (Scalar.text name).sameKey k = true ↔ k = .text name := by
  cases k with
  | text s => rw [sameKey, beq_iff_eq, text.injEq, eq_comm]
  | null | bool | int | float => simp [sameKey]

end Scalar

namespace Entries

theorem get?_cons (e : Scalar × Setting) (es : Entries) (k : Scalar) :
    get? (e :: es) k = if e.1.sameKey k then some e.2 else get? es k := by
  unfold get?
  rw [List.find?_cons]
  cases e.1.sameKey k <;> rfl

section Names

variable {name : String} {k : Scalar} {e : Scalar × Setting} {es : Entries}

theorem get?_text_cons_of_ne (he : e.1 ≠ .text name) :
    get? (e :: es) (.text name) = get? es (.text name) := by
  rw [get?_cons, if_neg fun h => he (Scalar.sameKey_text.mp h)]

theorem get?_text_cons_self (v : Setting) (es : Entries) :
    get? ((.text name, v) :: es) (.text name) = some v := by
  rw [get?_cons, if_pos (Scalar.sameKey_text.mpr rfl)]

theorem get?_cons_text_of_ne (hk : k ≠ .text name) (v : Setting) :
    get? ((.text name, v) :: es) k = get? es k := by
  rw [get?_cons, if_neg fun h => hk (Scalar.text_sameKey.mp h)]

theorem get?_put_of_ne (hk : k ≠ .text name) (v : Setting) :
    get? (put es k v) (.text name) = get? es (.text name) := by
  induction es with
  | nil => exact get?_text_cons_of_ne hk
  | cons e rest ih =>
    unfold put
    split
    · next hs =>
      have he : e.1 ≠ .text name := fun h => hk (Scalar.text_sameKey.mp (h ▸ hs))
      rw [get?_text_cons_of_ne he]
      exact get?_text_cons_of_ne he
    · rw [get?_cons, get?_cons, ih]

theorem put_text_of_none (h : get? es (.text name) = none) (v : Setting) :
    put es (.text name) v = es ++ [(.text name, v)] := by
  induction es with
  | nil => rfl
  | cons e rest ih =>
    rw [get?_cons] at h
    split at h
    · cases h
    · next hs => rw [put, if_neg hs, ih h, List.cons_append]

end Names

/-- Entries that differ at most in the setting under a name, which stands in them only once. -/
inductive SameBut (name : String) (R : Setting → Setting → Prop) : Entries → Entries → Prop
  | refl (es : Entries) : SameBut name R es es
  | here {s t : Setting} {rest : Entries} (hr : R s t) (hn : get? rest (.text name) = none) :
    SameBut name R ((.text name, s) :: rest) ((.text name, t) :: rest)
  | there {e : Scalar × Setting} {es fs : Entries} (he : e.1 ≠ .text name)
    (h : SameBut name R es fs) : SameBut name R (e :: es) (e :: fs)

namespace SameBut

variable {name : String} {R : Setting → Setting → Prop} {es fs base : Entries} {k : Scalar}

theorem get?_of_ne (h : SameBut name R es fs) (hk : k ≠ .text name) : get? es k = get? fs k := by
  induction h with
  | refl => rfl
  | here => rw [get?_cons_text_of_ne hk, get?_cons_text_of_ne hk]
  | there _ _ ih => rw [get?_cons, get?_cons, ih]

theorem get_of_ne (h : SameBut name R es fs) {other : String} (ho : other ≠ name) :
    get es other = get fs other := by
  rw [get, get, h.get?_of_ne fun hk => ho (Scalar.text.inj hk)]

theorem get?_self (h : SameBut name R es fs) :
    get? es (.text name) = get? fs (.text name) ∨
      ∃ s t, get? es (.text name) = some s ∧ get? fs (.text name) = some t ∧ R s t := by
  induction h with
  | refl => exact .inl rfl
  | here hr => exact .inr ⟨_, _, get?_text_cons_self _ _, get?_text_cons_self _ _, hr⟩
  | there he _ ih => rwa [get?_text_cons_of_ne he, get?_text_cons_of_ne he]

theorem get_self (h : SameBut name R es fs) :
    get es name = get fs name ∨ R (get es name) (get fs name) := by
  rcases h.get?_self with he | ⟨s, t, hs, ht, hr⟩
  · exact .inl (by rw [get, get, he])
  · exact .inr (by rwa [get, get, hs, ht])

theorem put (h : SameBut name R es fs) (hk : k ≠ .text name) (v : Setting) :
    SameBut name R (put es k v) (put fs k v) := by
  induction h with
  | refl => exact .refl _
  | here hr hn =>
    rw [Entries.put, Entries.put, if_neg fun h => hk (Scalar.text_sameKey.mp h),
      if_neg fun h => hk (Scalar.text_sameKey.mp h)]
    exact .here hr ((get?_put_of_ne hk v).trans hn)
  | there he h ih =>
    rw [Entries.put, Entries.put]
    split
    · exact .there he h
    · exact .there he ih

theorem append_single {s t : Setting} (hr : R s t) (hb : get? base (.text name) = none) :
    SameBut name R (base ++ [(.text name, s)]) (base ++ [(.text name, t)]) := by
  induction base with
  | nil => exact .here hr rfl
  | cons e rest ih =>
    rw [get?_cons] at hb
    split at hb
    · cases hb
    · next hs => exact .there (fun h => hs (Scalar.sameKey_text.mpr h)) (ih hb)

/-- The same entries over defaults that differ in one setting, which the entries do not name. -/
theorem overlay_left {below above : Entries} (h : SameBut name R below above)
    (hn : get? es (.text name) = none) :
    SameBut name R (Setting.overlay below es) (Setting.overlay above es) := by
  induction es generalizing below above with
  | nil => exact h
  | cons e rest ih =>
    obtain ⟨key, v⟩ := e
    have hk : key ≠ .text name := by
      rintro rfl
      rw [get?_text_cons_self] at hn
      cases hn
    rw [get?_text_cons_of_ne hk] at hn
    rw [Setting.overlay, Setting.overlay, h.get?_of_ne hk]
    exact ih (h.put hk _) hn

theorem overlaid_none (s : Setting) : Setting.overlaid none s = s := by cases s <;> rfl

theorem overlay (h : SameBut name R es fs) (hb : get? base (.text name) = none) :
    SameBut name R (Setting.overlay base es) (Setting.overlay base fs) := by
  induction h generalizing base with
  | refl => exact .refl _
  | here hr hn =>
    rw [Setting.overlay, Setting.overlay, hb, overlaid_none, overlaid_none,
      put_text_of_none hb, put_text_of_none hb]
    exact overlay_left (append_single hr hb) hn
  | there he _ ih =>
    rw [Setting.overlay, Setting.overlay]
    exact ih ((get?_put_of_ne he _).trans hb)

end SameBut

end Entries

end BuildScript

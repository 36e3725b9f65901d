import BuildScript.Proofs.Registry.Registration
import BuildScript.Proofs.Text.Lowered

/-! # Lookup

Languages are looked up in a normal form, but bound as they are registered. So a language that is
registered in another form than the normal one is looked up in vain, by every text.
-/

namespace BuildScript.Registry

open Text

variable {κ : Type}

/-! ## Normal forms -/

def underscored (c : Char) : Char := if c = '-' then '_' else c

/-- The normal form of text: trimmed, lowered, and with underscores for hyphens. Texts of one
normal form differ only in case, in outer blanks and in hyphens for underscores. -/
def fold (text : String) : String :=
  String.ofList ((lower (strip text)).toList.map underscored)

theorem normalize_text {text : String} (h : text ≠ "") :
    normalize (.text text) = fold text := by
  have isSet : (Setting.text text).isSet = true := bne_iff_ne.mpr h
  rw [normalize, isSet]
  rfl

theorem isLow_underscored {c : Char} (h : IsLow c) : IsLow (underscored c) := by
  unfold underscored
  split
  · exact isLow_of_small (by decide) (by decide)
  · exact h

theorem isBlank_underscored {c : Char} (h : isBlank c = false) :
    isBlank (underscored c) = false := by
  unfold underscored
  split
  · rfl
  · exact h

@[simp] theorem underscored_underscored (c : Char) :
    underscored (underscored c) = underscored c := by
  unfold underscored
  split <;> simp_all

@[simp] theorem fold_fold (text : String) : fold (fold text) = fold text := by
  have trimmed : IsTrimmed (fold text).toList := by
    rw [fold, lower, String.toList_ofList, String.toList_ofList]
    exact ((isTrimmed_strip text).lowerChars []).map fun _ => isBlank_underscored
  have low : ∀ c ∈ (fold text).toList, IsLow c := by
    rw [fold, lower, String.toList_ofList, String.toList_ofList]
    intro c hc
    obtain ⟨d, hd, rfl⟩ := List.mem_map.mp hc
    exact isLow_underscored (isLow_of_mem_lowerChars hd)
  rw [fold, trimmed.strip_eq, lower_of_low low, fold, String.toList_ofList, List.map_map]
  exact congrArg String.ofList (List.map_congr_left fun c _ => underscored_underscored c)

theorem fold_normalize (language : Setting) : fold (normalize language) = normalize language :=
  fold_fold _

/-! ## What a registered language stands for -/

theorem get_eq_ok_iff {r : Registry κ} {language : Setting} {k : κ} :
    r.get language = .ok k ↔ r.bound? (normalize language) = some k := by
  rw [get, ← bound?]
  cases r.bound? (normalize language) <;> simp

theorem get_eq_error_iff {r : Registry κ} {language : Setting} :
    r.get language = .error ⟨normalize language, r.languages⟩ ↔
      r.bound? (normalize language) = none := by
  rw [get, ← bound?]
  cases r.bound? (normalize language) <;> simp

/-- A language is unknown just if each bound one of its normal form was registered in another form
than that. -/
theorem unknown_iff {r : Registry κ} {language : Setting} :
    r.get language = .error ⟨normalize language, r.languages⟩ ↔
      ∀ key, (r.bound? key).isSome → normalize language = fold key → fold key ≠ key := by
  rw [get_eq_error_iff]
  constructor
  · intro h key bound match' normal
    rw [match', normal] at h
    rw [h] at bound
    cases bound
  · intro h
    rw [← Option.not_isSome_iff_eq_none]
    exact fun bound => h _ bound (fold_normalize language).symm (fold_normalize language)

/-- After an accepted registration, whatever was registered before and later: a language that it
asked for is found by the texts of its normal form just if that is how it was asked for, or the
normal form is bound to the same profile as well. Empty text stands for the generic profile. A
language is unknown just if those it matches were all registered in another form. -/
theorem registered_found_iff {start r : Registry κ} {earlier later : List (Registration κ)}
    {x : Registration κ}
    (accepted : ((start.after earlier).register x.profile x.name x.aliases).1 = .ok ())
    (hr : r = start.after (earlier ++ x :: later)) :
    (∀ key ∈ x.languages, ∀ text, text ≠ "" → fold text = fold key →
      (r.get (.text text) = .ok x.profile ↔
        fold key = key ∨ r.bound? (fold key) = some x.profile)) ∧
    r.get (.text "") = r.get (.text "generic") ∧
    ∀ language, r.get language = .error ⟨normalize language, r.languages⟩ ↔
      ∀ key, (r.bound? key).isSome → normalize language = fold key → fold key ≠ key := by
  refine ⟨?_, rfl, fun _ => unknown_iff⟩
  intro key asked text written same
  rw [get_eq_ok_iff, normalize_text written, same]
  have bound : r.bound? key = some x.profile := by
    rw [hr, after, List.foldl_append]
    exact bound?_of_accepted accepted asked
  constructor
  · exact .inr
  · rintro (normal | other)
    · rwa [normal]
    · exact other

/-- An alias is found in capitals, the name is not found at all. -/
theorem registered_found_iff_zig :
    ((standard.after []).register .base "Zig" ["zig_lang"]).1 = .ok () ∧
    (standard.after [⟨.base, "Zig", ["zig_lang"]⟩]).get (.text "Zig-Lang ") = .ok .base ∧
    (standard.after [⟨.base, "Zig", ["zig_lang"]⟩]).get (.text "Zig") ≠ .ok .base := by
  have accepted : ((standard.after []).register .base "Zig" ["zig_lang"]).1 = .ok () := rfl
  have found := (registered_found_iff (x := ⟨Profile.base, "Zig", ["zig_lang"]⟩) accepted
    (rfl : _ = standard.after ([] ++ _ :: []))).1
  refine ⟨accepted, (found "zig_lang" (by decide) _ (by decide) (by decide +kernel)).mpr
    (.inl (by decide +kernel)), fun h => ?_⟩
  have := (found "Zig" (by decide) _ (by decide) rfl).mp h
  revert this
  decide +kernel

/-- A language that was registered is not found under the name it was registered under. -/
theorem registered_zig_unknown :
    (standard.register .base "Zig" []).1 = .ok () ∧
    (standard.register .base "Zig" []).2.get (.text "Zig") =
      .error ⟨"zig", (standard.register .base "Zig" []).2.languages⟩ :=
  ⟨rfl, rfl⟩

end BuildScript.Registry

import Mathlib.Data.List.Induction
import BuildScript.Proofs.Registry.Lookup

/-! # Histories of registrations

Registrations one after the other, accepted or rejected, from a registry in which nothing is bound.
Each of them only adds bindings. So a language stays bound to the profile that it was bound to first,
and the list of languages has each bound one once.
-/

namespace BuildScript.Registry

variable {κ : Type} {r : Registry κ} {x : Registration κ} {xs : List (Registration κ)} {k : κ}
  {key language : String} {ls granted before after : List String}

/-! ## What one registration binds -/

/-- Whether a registration comes to bind a language: this one and those asked for before it are all
different and not bound yet. -/
def Reaches (r : Registry κ) (x : Registration κ) (key : String) : Prop :=
  ∃ before after, x.languages = before ++ key :: after ∧ r.Free (before ++ [key])

theorem Free.of_prefix (free : r.Free ls) (h : granted <+: ls) : r.Free granted :=
  ⟨free.nodup.sublist h.sublist, fun l hl => free.unbound l (h.subset hl)⟩

theorem not_free_of_taken (taken : (r.bound? language).isSome ∨ language ∈ before) :
    ¬r.Free (before ++ [language]) := by
  intro free
  rcases taken with bound | again
  · rw [free.unbound language List.mem_concat_self] at bound
    cases bound
  · exact (List.nodup_append.mp free.nodup).2.2 _ again _ List.mem_cons_self rfl

theorem Reaches.bound?_eq_none (h : r.Reaches x key) : r.bound? key = none := by
  obtain ⟨_, _, _, free⟩ := h
  exact free.unbound key List.mem_concat_self

theorem reaches_of_mem (hp : granted <+: x.languages) (free : r.Free granted)
    (h : key ∈ granted) : r.Reaches x key := by
  obtain ⟨before, after, rfl⟩ := List.append_of_mem h
  obtain ⟨rest, asked⟩ := hp
  refine ⟨before, after ++ rest, ?_, free.of_prefix ⟨after, ?_⟩⟩
  · rw [← asked, List.append_assoc, List.cons_append]
  · rw [List.append_assoc, List.singleton_append]

/-- A language that a registration reaches stands before the first one that is taken. -/
theorem Reaches.mem_before (h : r.Reaches x key)
    (split : x.languages = before ++ language :: after)
    (taken : (r.bound? language).isSome ∨ language ∈ before) : key ∈ before := by
  obtain ⟨first, rest, asked, free⟩ := h
  have reached : first ++ [key] <+: x.languages := ⟨rest, by simp [asked]⟩
  have stopped : before ++ [language] <+: x.languages := ⟨after, by simp [split]⟩
  rcases List.prefix_or_prefix_of_prefix stopped reached with beyond | within
  · exact absurd (free.of_prefix beyond) (not_free_of_taken taken)
  · rcases List.prefix_concat_iff.mp within with same | within
    · exact absurd (same ▸ free) (not_free_of_taken taken)
    · exact within.subset List.mem_concat_self

/-- An attempt, accepted or rejected, binds the languages that it reaches, which stand first among
those that it asks for. -/
theorem exists_granted (r : Registry κ) (x : Registration κ) :
    ∃ granted, r.Free granted ∧ (∀ key, key ∈ granted ↔ r.Reaches x key) ∧
      r.attempt x = (r.naming x.profile x.name).binding x.profile granted := by
  have ends : Ends _ _ x.languages ((r.register x.profile x.name x.aliases).1, r.attempt x) :=
    register_ends r x.profile x.name x.aliases
  generalize (r.register x.profile x.name x.aliases).1 = result, r.attempt x = left at ends ⊢
  cases ends with
  | accepted free =>
    have free : r.Free x.languages := ⟨free.nodup, free.unbound⟩
    refine ⟨x.languages, free, fun key => ⟨reaches_of_mem List.prefix_rfl free, ?_⟩, rfl⟩
    rintro ⟨before, after, asked, -⟩
    rw [asked]
    exact List.mem_append_right before List.mem_cons_self
  | @rejected before after language split free taken =>
    have free : r.Free before := ⟨free.nodup, free.unbound⟩
    exact ⟨before, free, fun key => ⟨reaches_of_mem ⟨_, split.symm⟩ free,
      fun reached => reached.mem_before split taken⟩, rfl⟩

/-- After an attempt a language is bound to what it was bound to before, or to the profile of the
attempt if that reached it. -/
theorem bound?_attempt : (r.attempt x).bound? key = some k ↔
    r.bound? key = some k ∨ r.Reaches x key ∧ x.profile = k := by
  obtain ⟨granted, -, reached, left⟩ := exists_granted r x
  have before : (r.naming x.profile x.name).bound? key = r.bound? key := rfl
  rw [left, bound?_binding, before, ← reached]
  constructor
  · intro h
    rcases Option.or_eq_some_iff.mp h with bound | ⟨-, new⟩
    · exact .inl bound
    · obtain ⟨asked, same⟩ := Option.ite_none_right_eq_some.mp new
      exact .inr ⟨asked, Option.some.inj same⟩
  · rintro (bound | ⟨asked, rfl⟩)
    · rw [bound, Option.some_or]
    · rw [((reached key).mp asked).bound?_eq_none, if_pos asked, Option.none_or]

/-! ## The list of languages -/

def keys (r : Registry κ) : List String := r.bindings.map Prod.fst

theorem isSome_bound?_iff : (r.bound? key).isSome ↔ key ∈ r.keys := by
  rw [bound?, keys, ← Option.ne_none_iff_isSome, ne_eq, List.lookup_eq_none_iff]
  simp

theorem keys_attempt : ∃ granted, r.Free granted ∧ (r.attempt x).keys = r.keys ++ granted := by
  obtain ⟨granted, free, -, left⟩ := exists_granted r x
  refine ⟨granted, free, ?_⟩
  rw [left, keys, binding, List.map_append, List.map_map, Function.comp_def, List.map_id']
  rfl

theorem nodup_keys_attempt (h : r.keys.Nodup) : (r.attempt x).keys.Nodup := by
  obtain ⟨granted, free, left⟩ := keys_attempt (r := r) (x := x)
  rw [left]
  refine List.nodup_append.mpr ⟨h, free.nodup, ?_⟩
  rintro l bound _ new rfl
  rw [← isSome_bound?_iff, free.unbound l new] at bound
  cases bound

theorem mem_languages_iff : key ∈ r.languages ↔ (r.bound? key).isSome := by
  rw [isSome_bound?_iff, languages, List.mem_mergeSort, keys]

theorem languages_strictly_sorted (h : r.keys.Nodup) : r.languages.Pairwise (· < ·) := by
  have le_iff (a b : String) : (!decide (b < a)) = true ↔ a ≤ b := by
    rw [Bool.not_eq_true', decide_eq_false_iff_not]
    exact String.not_lt
  have perm : r.languages.Perm r.keys := List.mergeSort_perm _ _
  have sorted : r.languages.Pairwise fun a b => !decide (b < a) := by
    refine List.pairwise_mergeSort (fun a b c ab bc => ?_) (fun a b => ?_) _
    · exact (le_iff a c).mpr (String.le_trans ((le_iff a b).mp ab) ((le_iff b c).mp bc))
    · rw [Bool.or_eq_true, le_iff, le_iff]
      exact String.le_total a b
  refine (sorted.and (perm.nodup_iff.mpr h)).imp ?_
  rintro a b ⟨le, ne⟩
  exact String.not_le.mp fun ge => ne (String.le_antisymm ((le_iff a b).mp le) ge)

/-! ## Whole histories -/

def empty : Registry κ := ⟨[], []⟩

/-- Whether one of the registrations of a history came to bind a language to a profile. -/
def Binds (xs : List (Registration κ)) (key : String) (k : κ) : Prop :=
  ∃ earlier x later, xs = earlier ++ x :: later ∧ (empty.after earlier).Reaches x key ∧
    x.profile = k

theorem after_append (r : Registry κ) (xs ys : List (Registration κ)) :
    r.after (xs ++ ys) = (r.after xs).after ys :=
  List.foldl_append

theorem after_concat (r : Registry κ) (xs : List (Registration κ)) (x : Registration κ) :
    r.after (xs ++ [x]) = (r.after xs).attempt x :=
  after_append r xs [x]

theorem binds_concat : Binds (xs ++ [x]) key k ↔
    Binds xs key k ∨ (empty.after xs).Reaches x key ∧ x.profile = k := by
  constructor
  · rintro ⟨earlier, y, later, split, reached, named⟩
    rcases List.eq_nil_or_concat later with rfl | ⟨later, z, rfl⟩
    · obtain ⟨rfl, same⟩ := List.append_inj' split rfl
      obtain rfl := List.singleton_inj.mp same
      exact .inr ⟨reached, named⟩
    · rw [List.concat_eq_append, ← List.cons_append, ← List.append_assoc] at split
      exact .inl ⟨earlier, y, later, (List.append_inj' split rfl).1, reached, named⟩
  · rintro (⟨earlier, y, later, rfl, found⟩ | found)
    · exact ⟨earlier, y, later ++ [x], by simp, found⟩
    · exact ⟨xs, x, [], rfl, found⟩

theorem bound?_after_empty : (empty.after xs).bound? key = some k ↔ Binds xs key k := by
  induction xs using List.reverseRecOn with
  | nil =>
    constructor
    · intro h
      cases h
    · rintro ⟨earlier, x, later, split, -⟩
      simp at split
  | append_singleton xs x ih => rw [after_concat, bound?_attempt, ih, binds_concat]

theorem nodup_keys_after_empty : (empty.after xs : Registry κ).keys.Nodup := by
  induction xs using List.reverseRecOn with
  | nil => exact List.nodup_nil
  | append_singleton xs x ih =>
    rw [after_concat]
    exact nodup_keys_attempt ih

def standardRegistrations : List (Registration Profile) := [
  ⟨.android, "android", []⟩, ⟨.c, "c", []⟩, ⟨.cpp, "cpp", ["c++"]⟩,
  ⟨.generic, "generic", ["bash", "sh", "shell"]⟩, ⟨.haskell, "haskell", []⟩,
  ⟨.java, "java", ["pure_java", "jvm"]⟩]

theorem standard_eq_after : standard = empty.after standardRegistrations := rfl

/-- Over every history of registrations, accepted or rejected: a language is bound to the profile of
the registration that came to bind it, and stays bound to it whatever is registered later. What was
found once is found ever after. The list of languages is strictly sorted and has exactly those that
were bound. -/
theorem bound_languages_permanent (xs later : List (Registration κ)) :
    (∀ key k, (empty.after xs).bound? key = some k ↔ Binds xs key k) ∧
    (∀ key k, (empty.after xs).bound? key = some k →
      (empty.after (xs ++ later)).bound? key = some k) ∧
    (∀ language k, (empty.after xs).get language = .ok k →
      (empty.after (xs ++ later)).get language = .ok k) ∧
    (empty.after xs).languages.Pairwise (· < ·) ∧
    ∀ key, key ∈ (empty.after xs).languages ↔ ∃ k, Binds xs key k := by
  have keeps : (empty.after xs).Keeps (empty.after (xs ++ later)) := by
    rw [after_append]
    exact keeps_after _ later
  refine ⟨fun _ _ => bound?_after_empty, keeps, fun language k h => ?_,
    languages_strictly_sorted nodup_keys_after_empty, fun key => ?_⟩
  · rw [get_eq_ok_iff] at h ⊢
    exact keeps _ k h
  · simp only [mem_languages_iff, Option.isSome_iff_exists, bound?_after_empty]

/-- What a rejected registration binds before it comes to a taken language is bound for good. -/
theorem bound_languages_permanent_rejected :
    let xs : List (Registration Profile) := [⟨.c, "c", []⟩, ⟨.cpp, "cpp", ["c", "c++"]⟩]
    let later : List (Registration Profile) := [⟨.java, "cpp", []⟩, ⟨.java, "java", ["java"]⟩]
    (empty.after xs).bound? "cpp" = some .cpp ∧
      (empty.after (xs ++ later)).bound? "cpp" = some .cpp ∧
      (empty.after (xs ++ later)).get (.text "CPP") = .ok .cpp := by
  intro xs later
  obtain ⟨-, keeps, found, -⟩ := bound_languages_permanent xs later
  have bound : (empty.after xs).bound? "cpp" = some .cpp := rfl
  have get : (empty.after xs).get (.text "CPP") = .ok .cpp := by
    rw [get_eq_ok_iff, normalize_text (by decide)]
    rfl
  exact ⟨bound, keeps _ _ bound, found _ _ get⟩

end BuildScript.Registry

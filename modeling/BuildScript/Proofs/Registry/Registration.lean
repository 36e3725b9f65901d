import BuildScript.Registry

/-! # Registration

A registration names its profile and binds languages one after the other, each checked right
before it is bound. So an accepted one binds all its languages, and a rejected one is left where it
stood when it came to a language that is taken.
-/

namespace BuildScript.Registry

variable {κ : Type} {r r' : Registry κ} {k : κ} {language name : String}
  {ls aliases : List String}

def bound? (r : Registry κ) (language : String) : Option κ := r.bindings.lookup language

def binding (r : Registry κ) (k : κ) (ls : List String) : Registry κ :=
  { r with bindings := r.bindings ++ ls.map (·, k) }

def naming (r : Registry κ) (k : κ) (name : String) : Registry κ :=
  { r with names := (k, name) :: r.names }

@[simp] theorem binding_nil : r.binding k [] = r := by
  rw [binding, List.map_nil, List.append_nil]

theorem binding_cons :
    r.binding k (language :: ls) = (r.binding k [language]).binding k ls := by
  simp only [binding, List.map_cons, List.map_nil, List.append_assoc, List.singleton_append]

theorem lookup_map_pair (ls : List String) (k : κ) :
    (ls.map (·, k)).lookup language = if language ∈ ls then some k else none := by
  induction ls with
  | nil => rfl
  | cons l ls ih =>
    rw [List.map_cons, List.lookup_cons, ih]
    by_cases h : language = l
    · simp [h]
    · simp [h, beq_false_of_ne h]

theorem bound?_binding : (r.binding k ls).bound? language =
    (r.bound? language).or (if language ∈ ls then some k else none) := by
  rw [bound?, binding, List.lookup_append, lookup_map_pair, bound?]

/-! ## What binding comes to -/

structure Free (r : Registry κ) (ls : List String) : Prop where
  nodup : ls.Nodup
  unbound : ∀ language ∈ ls, r.bound? language = none

theorem free_nil : r.Free [] := ⟨List.nodup_nil, by simp⟩

theorem free_cons : r.Free (language :: ls) ↔
    r.bound? language = none ∧ (r.binding k [language]).Free ls := by
  constructor
  · rintro ⟨hd, hu⟩
    obtain ⟨hn, hd⟩ := List.nodup_cons.mp hd
    obtain ⟨hl, hu⟩ := List.forall_mem_cons.mp hu
    refine ⟨hl, hd, fun l h => ?_⟩
    have hne : l ≠ language := fun he => hn (he ▸ h)
    simp [bound?_binding, hu l h, hne]
  · rintro ⟨hl, hd, hu⟩
    simp only [bound?_binding, Option.or_eq_none_iff, List.mem_singleton] at hu
    refine ⟨List.nodup_cons.mpr ⟨fun h => ?_, hd⟩, List.forall_mem_cons.mpr ⟨hl, fun l h =>
      (hu l h).1⟩⟩
    simpa using (hu _ h).2

/-- How binding languages one after the other ends. -/
inductive Ends (r : Registry κ) (k : κ) (ls : List String) :
    Except Conflict Unit × Registry κ → Prop
  | accepted (free : r.Free ls) : Ends r k ls (.ok (), r.binding k ls)
  | rejected {before after : List String} {language : String}
      (split : ls = before ++ language :: after) (free : r.Free before)
      (taken : (r.bound? language).isSome ∨ language ∈ before) :
      Ends r k ls (.error ⟨language⟩, r.binding k before)

theorem bind_of_isSome (h : (r.bound? language).isSome) :
    r.bind k (language :: ls) = (.error ⟨language⟩, r) :=
  if_pos h

theorem bind_of_eq_none (h : r.bound? language = none) :
    r.bind k (language :: ls) = (r.binding k [language]).bind k ls :=
  if_neg (Option.not_isSome_iff_eq_none.mpr h)

theorem Ends.cons {result : Except Conflict Unit × Registry κ} (hl : r.bound? language = none)
    (h : Ends (r.binding k [language]) k ls result) :
    Ends r k (language :: ls) result := by
  cases h with
  | accepted free =>
    rw [← binding_cons]
    exact .accepted (free_cons.mpr ⟨hl, free⟩)
  | @rejected before after language' split free taken =>
    rw [← binding_cons]
    refine .rejected (congrArg (language :: ·) split) (free_cons.mpr ⟨hl, free⟩) ?_
    rw [bound?_binding, Option.isSome_or, Bool.or_eq_true] at taken
    rcases taken with (h | h) | h
    · exact .inl h
    · by_cases he : language' = language
      · exact .inr (he ▸ List.mem_cons_self)
      · rw [if_neg (mt List.mem_singleton.mp he)] at h
        cases h
    · exact .inr (List.mem_cons_of_mem _ h)

theorem bind_ends (r : Registry κ) (k : κ) (ls : List String) :
    Ends r k ls (r.bind k ls) := by
  induction ls generalizing r with
  | nil =>
    have : Ends r k [] (.ok (), r.binding k []) := .accepted free_nil
    rwa [binding_nil] at this
  | cons language rest ih =>
    cases h : r.bound? language with
    | none =>
      rw [bind_of_eq_none h]
      exact (ih (r.binding k [language])).cons h
    | some _ =>
      have taken : (r.bound? language).isSome := Option.isSome_of_eq_some h
      rw [bind_of_isSome taken]
      have : Ends r k ([] ++ language :: rest) (.error ⟨language⟩, r.binding k []) :=
        .rejected rfl free_nil (.inl taken)
      rwa [binding_nil] at this

theorem register_ends (r : Registry κ) (k : κ) (name : String) (aliases : List String) :
    Ends (r.naming k name) k (name :: aliases) (r.register k name aliases) :=
  bind_ends _ _ _

theorem accepted_eq (h : r.register k name aliases = (.ok (), r')) :
    r.Free (name :: aliases) ∧ r' = (r.naming k name).binding k (name :: aliases) := by
  have := register_ends r k name aliases
  rw [h] at this
  cases this with
  | accepted free => exact ⟨⟨free.nodup, free.unbound⟩, rfl⟩

/-- What a rejected registration leaves: its profile has its name, and the languages before the
taken one are bound. -/
theorem rejected_eq {e : Conflict} (h : r.register k name aliases = (.error e, r')) :
    ∃ before after, name :: aliases = before ++ e.language :: after ∧ r.Free before ∧
      ((r.bound? e.language).isSome ∨ e.language ∈ before) ∧
      r' = (r.naming k name).binding k before := by
  have := register_ends r k name aliases
  rw [h] at this
  cases this with
  | rejected split free taken => exact ⟨_, _, split, ⟨free.nodup, free.unbound⟩, taken, rfl⟩

/-! ## Registrations one after the other -/

structure Registration (κ : Type) where
  profile : κ
  name : String
  aliases : List String

def Registration.languages (x : Registration κ) : List String := x.name :: x.aliases

/-- A registry once a registration has been accepted or rejected. -/
def attempt (r : Registry κ) (x : Registration κ) : Registry κ :=
  (r.register x.profile x.name x.aliases).2

def after (r : Registry κ) (xs : List (Registration κ)) : Registry κ := xs.foldl attempt r

/-- What languages are bound to in one registry, they are bound to in another. -/
def Keeps (r r' : Registry κ) : Prop := ∀ language k, r.bound? language = some k →
  r'.bound? language = some k

theorem keeps_binding (r : Registry κ) (k : κ) (ls : List String) : r.Keeps (r.binding k ls) := by
  intro language k' h
  rw [bound?_binding, h, Option.some_or]

theorem exists_attempt (r : Registry κ) (x : Registration κ) :
    ∃ ls, r.attempt x = (r.naming x.profile x.name).binding x.profile ls := by
  have h : r.register x.profile x.name x.aliases =
      ((r.register x.profile x.name x.aliases).1, r.attempt x) := rfl
  cases hr : (r.register x.profile x.name x.aliases).1 with
  | ok =>
    rw [hr] at h
    obtain ⟨-, left⟩ := accepted_eq h
    exact ⟨_, left⟩
  | error e =>
    rw [hr] at h
    obtain ⟨before, _, _, _, _, left⟩ := rejected_eq h
    exact ⟨before, left⟩

theorem keeps_attempt (r : Registry κ) (x : Registration κ) : r.Keeps (r.attempt x) := by
  obtain ⟨ls, left⟩ := exists_attempt r x
  rw [left]
  exact keeps_binding (r.naming x.profile x.name) x.profile ls

theorem keeps_after (r : Registry κ) (xs : List (Registration κ)) : r.Keeps (r.after xs) := by
  induction xs generalizing r with
  | nil =>
    intro language k h
    exact h
  | cons x xs ih =>
    intro language k h
    exact ih (r.attempt x) language k (keeps_attempt r x language k h)

/-- An accepted registration binds each of its languages, and later ones leave it bound. -/
theorem bound?_of_accepted {x : Registration κ} {xs : List (Registration κ)}
    (h : (r.register x.profile x.name x.aliases).1 = .ok ()) (hl : language ∈ x.languages) :
    (r.after (x :: xs)).bound? language = some x.profile := by
  have hr : r.register x.profile x.name x.aliases = (.ok (), r.attempt x) := Prod.ext h rfl
  obtain ⟨free, left⟩ := accepted_eq hr
  refine keeps_after (r.attempt x) xs language x.profile ?_
  have unbound : (r.naming x.profile x.name).bound? language = none := free.unbound language hl
  rw [left, bound?_binding, unbound, Option.none_or]
  exact if_pos hl

/-! ## Whether a rejected registration leaves the registry as it was -/

theorem length_languages (r : Registry κ) : r.languages.length = r.bindings.length := by
  rw [Registry.languages, List.length_mergeSort, List.length_map]

theorem nameOf_naming [DecidableEq κ] (r : Registry κ) (k : κ) (name missing : String) :
    (r.naming k name).nameOf k missing = name := by
  rw [nameOf, naming, List.lookup_cons_self, Option.getD_some]

/-- What can be seen of a registry, but for the names of other profiles: its languages, what every
language stands for, and the name of a profile that has none of its own. -/
structure SeenAs [DecidableEq κ] (r r' : Registry κ) (k : κ) (missing : String) : Prop where
  languages : r'.languages = r.languages
  get : ∀ language, r'.get language = r.get language
  name : r'.nameOf k missing = r.nameOf k missing

/-- A rejected registration leaves the registry as it was just if its name is the taken language
and was the name of its profile before. -/
theorem rejected_unchanged_iff [DecidableEq κ] {e : Conflict}
    (h : r.register k name aliases = (.error e, r')) (missing : String) :
    (∃ before after, name :: aliases = before ++ e.language :: after ∧ r.Free before ∧
      ((r.bound? e.language).isSome ∨ e.language ∈ before) ∧
      r' = (r.naming k name).binding k before) ∧
    (SeenAs r r' k missing ↔ (r.bound? name).isSome ∧ r.nameOf k missing = name) := by
  obtain ⟨before, after, split, free, taken, rfl⟩ := rejected_eq h
  refine ⟨⟨before, after, split, free, taken, rfl⟩, ?_⟩
  constructor
  · intro same
    have none_bound : before = [] := by
      have := congrArg List.length same.languages
      rw [length_languages, length_languages, binding, List.length_append, List.length_map] at this
      exact List.eq_nil_of_length_eq_zero (Nat.left_eq_add.mp this.symm)
    subst none_bound
    obtain ⟨rfl, -⟩ := List.cons.inj split
    exact ⟨taken.resolve_right List.not_mem_nil,
      same.name.symm.trans (nameOf_naming r k e.language missing)⟩
  · rintro ⟨bound, named⟩
    cases before with
    | nil =>
      rw [binding_nil]
      exact ⟨rfl, fun _ => rfl, (nameOf_naming r k name missing).trans named.symm⟩
    | cons l ls =>
      obtain ⟨rfl, -⟩ := List.cons.inj split
      rw [free.unbound name List.mem_cons_self] at bound
      cases bound

theorem rejected_unchanged_iff_zig :
    standard.register .base "zig" ["c"] =
      (.error ⟨"c"⟩, (standard.naming .base "zig").binding .base ["zig"]) ∧
    ¬SeenAs standard ((standard.naming .base "zig").binding .base ["zig"]) .base "generic" :=
  have h : standard.register .base "zig" ["c"] =
      (.error ⟨"c"⟩, (standard.naming .base "zig").binding .base ["zig"]) := by rfl
  ⟨h, fun same => absurd ((rejected_unchanged_iff h "generic").2.mp same).1 (by decide)⟩

/-- A name that was free is bound by the rejected registration that asks for a taken alias. -/
theorem rejected_zig_bound :
    (standard.register .base "zig" ["c"]).1 = .error ⟨"c"⟩ ∧
    standard.get (.text "zig") = .error ⟨"zig", standard.languages⟩ ∧
    (standard.register .base "zig" ["c"]).2.get (.text "zig") = .ok .base ∧
    (standard.register .base "zig" ["c"]).2.languages ≠ standard.languages ∧
    standard.nameOf .base "generic" = "generic" ∧
    (standard.register .base "zig" ["c"]).2.nameOf .base "generic" = "zig" := by
  refine ⟨rfl, rfl, rfl, fun h => ?_, rfl, rfl⟩
  have := congrArg List.length h
  rw [length_languages, length_languages] at this
  revert this
  decide

end BuildScript.Registry

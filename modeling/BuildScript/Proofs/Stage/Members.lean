import BuildScript.Proofs.Stage.Components
import BuildScript.Proofs.Stage.Contrast
import BuildScript.Proofs.Stage.Documented

/-! # Settings read by their members

The cached directories and the components and licenses of Android are the members of what stands in
their place, and the members of a text are its characters. So a build reads a text there as the list
of its characters.
-/

namespace BuildScript

open Shell Drafting Capability

namespace Text

def characters (s : String) : List String := (units s.toList).map String.ofList

example : characters "vendor" = ["v", "e", "n", "d", "o", "r"] := by decide

theorem occurrences_characters (c : Char) (s : String) :
    ((characters s).map (occurrences c)).sum = occurrences c s := by
  have count (us : List (List Char)) :
      ((us.map String.ofList).map (occurrences c)).sum = us.flatten.count c := by
    induction us with
    | nil => rfl
    | cons u rest ih =>
      rw [List.map_cons, List.map_cons, List.sum_cons, ih, List.flatten_cons, List.count_append,
        occurrences, String.toList_ofList]
  rw [characters, count, units_flatten]
  rfl

theorem characters_eq_nil_iff {s : String} : characters s = [] ↔ s = "" := by
  constructor
  · intro h
    have flat := units_flatten s.toList
    rw [List.map_eq_nil_iff.mp h] at flat
    exact String.toList_eq_nil_iff.mp flat.symm
  · rintro rfl
    rfl

theorem characters_of_length {s : String} (h : (characters s).length = 1) : characters s = [s] := by
  rw [characters, List.length_map] at h
  obtain ⟨u, hu⟩ := List.length_eq_one_iff.mp h
  have flat := units_flatten s.toList
  rw [hu, List.flatten_singleton] at flat
  rw [characters, hu, List.map_singleton, flat, String.ofList_toList]

end Text

namespace Setting

theorem members_text (s : String) : (text s).members = .ok ((Text.characters s).map .text) := by
  rw [Text.characters, List.map_map]
  rfl

theorem isSet_characters (s : String) :
    (list ((Text.characters s).map .text)).isSet = (text s).isSet := by
  have empty : (list ((Text.characters s).map .text)).isSet = true ↔ s ≠ "" := by
    simp [isSet, Text.characters_eq_nil_iff]
  rw [Bool.eq_iff_iff, empty]
  simp [isSet, Scalar.isSet]

theorem texts_injective {us vs : List String} (h : us.map text = vs.map text) : us = vs :=
  (List.map_inj_right fun _ _ he => Scalar.text.inj (scalar.inj he)).mp h

end Setting

/-- The settings whose members are read one by one. -/
inductive MemberSetting
  | directories
  | components
  | licenses
deriving DecidableEq

namespace MemberSetting

def outer : MemberSetting → String
  | .directories => "cache"
  | .components | .licenses => "android"

def name : MemberSetting → String
  | .directories => "directories"
  | .components => "components"
  | .licenses => "licenses"

def path (m : MemberSetting) : List String := [m.outer, m.name]

def aspects : MemberSetting → List Aspect
  | .directories => [.caches "directories", .directories]
  | .components => [.android "components"]
  | .licenses => [.android "licenses"]

/-- Whether a profile comes to read a setting: the licenses are read for each of the components. -/
def IsRead (p : Profile) (config : Entries) : MemberSetting → Prop
  | .directories => True
  | .components => p = .android
  | .licenses => p = .android ∧
      (Entries.get (Entries.inner config "android") "components").isSet = true

def placed (m : MemberSetting) (payload : Payload) (status : Status) (s : Setting) : Resolution :=
  ⟨payload.place m.path s, status⟩

end MemberSetting

namespace Profile

section Placed

variable {p : Profile} {payload : Payload} (status : Status) (co : Option Entries)

section Cache

variable (hd : payload.config.Distinct) (s : Setting)
include hd

theorem setting_cache : (Compiler.buildFor p
    (MemberSetting.placed .directories payload status s) co).setting "cache" =
      .ok (.mapping (Entries.put (Entries.inner payload.config "cache") (.text "directories") s)) :=
  have missing : Entries.get? p.defaults (.text "cache") = none :=
    p.get?_defaults_of_ne (by decide) (by decide) (by decide)
  setting_place missing hd ["directories"] s status co

theorem caches_directories : (Compiler.buildFor p
    (MemberSetting.placed .directories payload status s) co).caches "directories" = .ok s.isSet := by
  rw [Build.caches, setting_cache status co hd s]
  change Except.ok (Entries.get (Entries.put _ _ s) "directories").isSet = _
  rw [Entries.get, Entries.get?_put_text_self]
  rfl

theorem caches_other {kind : String} (hk : kind ≠ "directories") : (Compiler.buildFor p
    (MemberSetting.placed .directories payload status s) co).caches kind =
      .ok (Entries.get (Entries.inner payload.config "cache") kind).isSet := by
  rw [Build.caches, setting_cache status co hd s]
  exact congrArg (Except.ok ·.isSet) (Entries.get_eq_of_given (Entries.given_put_of_ne hk _ s))

theorem cacheDirectories_eq : (Compiler.buildFor p
    (MemberSetting.placed .directories payload status s) co).cacheDirectories =
      s.optionalMembers.map (·.map (Setting.written .sealed)) := by
  rw [Build.cacheDirectories, setting_cache status co hd s]
  change ((Entries.get (Entries.put _ _ s) "directories").optionalMembers >>= _) = _
  rw [Entries.get, Entries.get?_put_text_self]
  rfl

end Cache

/-! What a setting decides is one of its aspects, and only the setup and the exit hook read it. -/

theorem eq_of_cache_key : ∀ a ∈ p.aspects, a.key = "cache" →
    a = .caches "apt" ∨ a = .caches "directories" ∨ a = .directories := by
  cases p <;> decide +kernel

theorem eq_of_android_key : ∀ a ∈ p.aspects, a.key = "android" →
    p = .android ∧ (a = .android "components" ∨ a = .android "licenses") := by
  cases p <;> decide +kernel

theorem notMem_stageAspects (m : MemberSetting) : ∀ stage ∈ Stage.all, stage ≠ .setup →
    ∀ a ∈ m.aspects, a ∉ p.stageAspects stage := by
  cases m <;> cases p <;> decide +kernel

variable (m : MemberSetting) (hk : (Setting.mapping payload.config).Keyed)
include hk

theorem same_elsewhere (s t : Setting) : ∀ a ∈ p.aspects, a ∉ m.aspects →
    a.Same (Compiler.buildFor p (m.placed payload status s) co)
      (Compiler.buildFor p (m.placed payload status t) co) := by
  intro a ha hm
  by_cases hn : a.key = m.outer
  -- the other aspects of the same mapping do not read the entry that is put
  · cases m with
    | directories =>
      rcases eq_of_cache_key a ha hn with rfl | rfl | rfl
      · exact (caches_other status co hk.distinct s (by decide)).trans
          (caches_other status co hk.distinct t (by decide)).symm
      · exact absurd (by decide) hm
      · exact absurd (by decide) hm
    | components =>
      obtain ⟨rfl, rfl | rfl⟩ := eq_of_android_key a ha hn
      · exact absurd (by decide) hm
      · exact (androidList_other status co "components" s hk (by decide)).trans
          (androidList_other status co "components" t hk (by decide)).symm
    | licenses =>
      obtain ⟨rfl, rfl | rfl⟩ := eq_of_android_key a ha hn
      · exact (androidList_other status co "licenses" s hk (by decide)).trans
          (androidList_other status co "licenses" t hk (by decide)).symm
      · exact absurd (by decide) hm
  · exact same_of_given (r := m.placed payload status s) (s := m.placed payload status t) rfl co
      ((payload.given_place hn [m.name] s).trans (payload.given_place hn [m.name] t).symm)

theorem same_characters (s : String) : ∀ a ∈ p.aspects,
    a.Same (Compiler.buildFor p (m.placed payload status (.text s)) co)
      (Compiler.buildFor p (m.placed payload status (.list ((Text.characters s).map .text))) co) := by
  intro a ha
  have members : (Setting.text s).members =
      (Setting.list ((Text.characters s).map .text)).members := Setting.members_text s
  by_cases hm : a ∈ m.aspects
  · cases m with
    | directories =>
      have set := Setting.isSet_characters s
      have optional : (Setting.text s).optionalMembers =
          (Setting.list ((Text.characters s).map .text)).optionalMembers := by
        rw [Setting.optionalMembers, Setting.optionalMembers, set, members]
      simp only [MemberSetting.aspects, List.mem_cons, List.not_mem_nil, or_false] at hm
      rcases hm with rfl | rfl
      · rw [Aspect.Same, caches_directories status co hk.distinct,
          caches_directories status co hk.distinct, set]
      · rw [Aspect.Same, cacheDirectories_eq status co hk.distinct,
          cacheDirectories_eq status co hk.distinct, optional]
    | components | licenses =>
      obtain rfl := List.mem_singleton.mp hm
      obtain ⟨rfl, -⟩ := eq_of_android_key _ ha rfl
      exact (androidList_placed status co _ _ hk).trans
        (members.trans (androidList_placed status co _ _ hk).symm)
  · exact same_elsewhere status co m hk _ _ a ha hm

omit m in
theorem components_ne_nil_iff (s : Setting) {components : List Setting}
    (hc : androidList (Compiler.buildFor .android
      (MemberSetting.placed .licenses payload status s) co) "components" = .ok components) :
    components ≠ [] ↔
      (Entries.get (Entries.inner payload.config "android") "components").isSet = true := by
  have held := androidList_other status co "licenses" s hk (show "components" ≠ "licenses" by decide)
  have members := held.symm.trans hc
  unfold Entries.get
  cases hg : Entries.get? (Entries.inner payload.config "android") (.text "components") with
  | none =>
    rw [hg] at members
    cases members
    exact iff_of_false (not_not_intro rfl) Bool.false_ne_true
  | some given =>
    rw [hg] at members
    exact Setting.members_ne_nil members

theorem run_eq_of_ne_setup (s t : Setting) {stage : Stage} (hs : stage ≠ .setup) :
    p.run (Compiler.buildFor p (m.placed payload status s) co) stage =
      p.run (Compiler.buildFor p (m.placed payload status t) co) stage :=
  have outside : (Compiler.buildFor p (m.placed payload status s) co).SameOutside
      (Compiler.buildFor p (m.placed payload status t) co) := ⟨rfl, rfl⟩
  run_congr outside fun a ha => same_elsewhere status co m hk s t a (mem_aspects ha) fun hm =>
    notMem_stageAspects m stage stage.mem_all hs a hm ha

end Placed

/-- Where no components are installed, the licenses are not read. -/
theorem run_congr_of_no_components {b c : Build} (ho : b.SameOutside c)
    (same : ∀ a ∈ Profile.android.aspects, a ∉ MemberSetting.licenses.aspects → a.Same b c)
    (hn : ∀ components, androidList b "components" = .ok components → components = [])
    (stage : Stage) : Profile.run .android b stage = Profile.run .android c stage := by
  by_cases hs : stage = .setup
  · subst hs
    have others : ∀ a ∈ Profile.android.cacheAspects, a ∉ MemberSetting.licenses.aspects := by
      decide
    have use := useDirectoryCache_congr (p := .android) ho
      (fun a ha => same a (cacheAspects_subset _ ha) (others a ha)) .fetch
    have version : jdk b = jdk c := same .jdk (by decide) (by decide)
    have lists : androidList b "components" = androidList c "components" :=
      same (.android "components") (by decide) (by decide)
    have after : afterCache .android b = afterCache .android c := by
      cases hc : androidList b "components" with
      | error e =>
        simp only [afterCache, version, ← lists, hc]
        rfl
      | ok components =>
        simp only [afterCache, version, ← lists, hc, hn components hc]
        rfl
    rw [run_of_builtin rfl, run_of_builtin rfl, hook_setup, hook_setup, use, after]
  · exact run_congr ho fun a ha => same a (mem_aspects ha) fun hm =>
      notMem_stageAspects .licenses stage stage.mem_all hs a hm ha

end Profile

end BuildScript

import BuildScript.Proofs.Shell.Occurrences
import BuildScript.Proofs.Stage.Cache
import BuildScript.Proofs.Stage.Misuse

/-! # Installed components

The components of an Android build are installed in one fold, each by a command that accepts all
licenses. How often a character stands in the fold depends on the number of the components, on
their texts and on the licenses.
-/

namespace BuildScript

open Shell Drafting Capability

namespace Profile

variable {b : Build} {c : Char}

section Lists

/-! The lists of an Android spec -/

def androidDefaults : Entries := [(.text "components", .list []), (.text "licenses", .list [])]

/-- What is given goes over the lists as it is, since they are no mappings. -/
theorem get?_overlay_androidDefaults {es : Entries} (hd : es.Distinct) (name : String) :
    Entries.get? (Setting.overlay androidDefaults es) (.text name) =
      (Entries.get? es (.text name)).or (Entries.get? androidDefaults (.text name)) := by
  have flat : ∀ below ∈ Entries.get? androidDefaults (.text name), below.isMapping = false := by
    intro below hb
    obtain ⟨e, he, rfl⟩ := Option.map_eq_some_iff.mp hb
    have member := List.mem_of_find?_eq_some he
    simp only [androidDefaults, List.mem_cons, List.not_mem_nil, or_false] at member
    rcases member with rfl | rfl <;> rfl
  have above (t : Setting) :
      Setting.overlaid (Entries.get? androidDefaults (.text name)) t = t := by
    cases t with
    | scalar | list => rfl
    | mapping es =>
      cases hb : Entries.get? androidDefaults (.text name) with
      | none => rfl
      | some below =>
        cases below with
        | scalar | list => rfl
        | mapping => cases flat _ hb
  rw [hd.get?_overlay_eq, funext above, Option.map_id']

variable {payload : Payload} (status : Status) (co : Option Entries) (list : String) (s : Setting)

theorem required_android (hd : payload.config.Distinct) : (Compiler.buildFor .android
    ⟨payload.place ["android", list] s, status⟩ co).config.required "android" =
      .ok (.mapping (Setting.overlay androidDefaults
        (Entries.put (Entries.inner payload.config "android") (.text list) s))) := by
  have own : Entries.get? Profile.android.defaults (.text "android") =
      some (.mapping androidDefaults) := rfl
  have held := (hd.place ["android", list] s).get?_overlay_eq Profile.android.defaults "android"
  rw [Entries.get?_place_self, own] at held
  rw [required_eq own, Entries.get]
  exact congrArg (fun found => Except.ok (found.getD .null)) held

variable (hk : (Setting.mapping payload.config).Keyed)
include hk

theorem androidList_placed : androidList (Compiler.buildFor .android
    ⟨payload.place ["android", list] s, status⟩ co) list = s.members := by
  have distinct := (Entries.distinct_inner hk "android").put (.text list) s
  rw [androidList, required_android status co list s hk.distinct]
  change ((Setting.mapping _).required list >>= _) = _
  rw [Setting.required, get?_overlay_androidDefaults distinct, Entries.get?_put_text_self]
  rfl

theorem androidList_other {other : String} (hn : other ≠ list) : androidList
    (Compiler.buildFor .android ⟨payload.place ["android", list] s, status⟩ co) other =
      match (Entries.get? (Entries.inner payload.config "android") (.text other)).or
        (Entries.get? androidDefaults (.text other)) with
      | some t => t.members
      | none => .error .missingKey := by
  have distinct := (Entries.distinct_inner hk "android").put (.text list) s
  have key : ¬(Scalar.text list).sameKey (.text other) = true := fun he =>
    hn (Scalar.text.inj (Scalar.sameKey_text.mp he)).symm
  rw [androidList, required_android status co list s hk.distinct]
  change ((Setting.mapping _).required other >>= _) = _
  rw [Setting.required, get?_overlay_androidDefaults distinct, Entries.get?_put, if_neg key]
  cases (Entries.get? (Entries.inner payload.config "android") (.text other)).or
    (Entries.get? androidDefaults (.text other)) <;> rfl

end Lists

def acceptance (licenses : List String) : String :=
  if licenses.isEmpty then "" else " --accept-licenses='" ++ "|".intercalate licenses ++ "'"

def componentUse (licenses : List String) (component : Setting) : Command where
  text := "android-update-sdk --components=" ++ component.written .sealed ++ acceptance licenses
  echo := true
  asserted := true

def componentNodes (components : List Setting) (licenses : List String) : List Node :=
  if components.isEmpty then []
  else [.fold "android.install" (alone (message "Installing Android dependencies") ++
    components.flatMap fun component => [.command (componentUse licenses component)])]

theorem mapM_texts {f : Setting → Except Setting.Misuse String} (hf : ∀ s, f (.text s) = .ok s)
    (texts : List String) : (texts.map Setting.text).mapM f = .ok texts := by
  induction texts with
  | nil => rfl
  | cons first rest ih =>
    rw [List.map_cons, List.mapM_cons, hf, ih]
    rfl

theorem licensePattern_texts (licenses : List String) :
    licensePattern (licenses.map .text) = .ok ("|".intercalate licenses) := by
  unfold licensePattern
  rw [mapM_texts fun _ => rfl]
  rfl

theorem componentCommand_texts (component : Setting) (licenses : List String) :
    componentCommand component (licenses.map .text) = .ok (componentUse licenses component).text := by
  unfold componentCommand componentUse acceptance
  rw [List.isEmpty_map]
  cases licenses with
  | nil => exact congrArg Except.ok (String.append_empty).symm
  | cons license rest =>
    rw [licensePattern_texts]
    exact congrArg Except.ok (by simp only [String.append_assoc]; rfl)

theorem exists_texts {licenses : List Setting} (h : licenses.all Setting.isText = true) :
    ∃ texts : List String, licenses = texts.map .text := by
  induction licenses with
  | nil => exact ⟨[], rfl⟩
  | cons license rest ih =>
    obtain ⟨hl, hr⟩ := Bool.and_eq_true_iff.mp h
    obtain ⟨texts, rfl⟩ := ih hr
    cases license with
    | scalar s =>
      cases s with
      | text t => exact ⟨t :: texts, rfl⟩
      | null | bool | int | float => cases hl
    | list | mapping => cases hl

theorem writes_installComponents {licenses : List String}
    (hl : androidList b "licenses" = .ok (licenses.map .text)) {components : List Setting}
    (hn : components ≠ []) :
    Writes (installComponents b components) () (componentNodes components licenses) [] := by
  have install (component : Setting) : Writes (installComponent b component) ()
      [.command (componentUse licenses component)] [] := by
    simp only [installComponent, hl, Drafting.read, pure_bind, componentCommand_texts]
    exact writes_command (componentUse licenses component) ""
  have opening : Writes (message "Installing Android dependencies") ()
      (alone (message "Installing Android dependencies")) [] := writes_append _
  rw [componentNodes, if_neg (by simpa using hn)]
  exact (opening.bind (.forM install components)).fold "android.install"

theorem writes_afterCache_android {version : Option String} (hj : jdk b = .ok version)
    {components : List Setting} (hc : androidList b "components" = .ok components)
    {licenses : List String}
    (hl : components ≠ [] → androidList b "licenses" = .ok (licenses.map .text)) :
    Writes (afterCache .android b) ()
      (alone (switchJdk version) ++ componentNodes components licenses) [] := by
  have switch : Writes (switchJdk version) () (alone (switchJdk version)) [] := by
    cases version with
    | none => exact Writes.pure ()
    | some v => exact writes_command _ ""
  simp only [afterCache, hj, hc, Drafting.read, pure_bind]
  refine switch.bind ?_
  cases components with
  | nil => exact Writes.pure ()
  | cons first rest =>
    exact writes_installComponents (hl (List.cons_ne_nil _ _)) (List.cons_ne_nil _ _)

/-- A build has installed its components, and has read licenses if there are any. -/
structure Installed (b : Build) (us : List Setting) (ls : List String) : Prop where
  components : androidList b "components" = .ok us
  licenses : us ≠ [] → androidList b "licenses" = .ok (ls.map .text)
  nodes : ∃ version, jdk b = .ok version ∧
    alone (afterCache .android b) = alone (switchJdk version) ++ componentNodes us ls

theorem opens_componentUse (licenses : List String) (component : Setting) :
    Opens (componentUse licenses component).text := by
  have head : Opens "android-update-sdk --components=" := by decide
  exact (head.append _).append _

theorem occurrences_acceptance (c : Char) {licenses : List String} (h : licenses ≠ []) :
    Text.occurrences c (acceptance licenses) + Text.occurrences c "|" =
      Text.occurrences c " --accept-licenses='" + Text.occurrences c "'" +
        (licenses.length * Text.occurrences c "|" + (licenses.map (Text.occurrences c)).sum) := by
  obtain ⟨first, rest, rfl⟩ := List.exists_cons_of_ne_nil h
  rw [acceptance, if_neg (by simp), Text.occurrences_append, Text.occurrences_append,
    Text.occurrences_intercalate, sum_map_const_add, List.map_cons, List.sum_cons,
    List.length_cons, Nat.succ_mul]
  omega

theorem exists_occurrences_components (hs : c ≠ '\'') (hd : c ≠ '"') (level : Int) :
    ∃ front each times, 0 < times ∧ ∀ components : List Setting, components ≠ [] → ∀ licenses,
      occurrences c level (componentNodes components licenses) = front +
        (components.length * (each + times * (Text.occurrences c "android-update-sdk --components=" +
            Text.occurrences c (acceptance licenses))) +
          times * (components.map fun u => Text.occurrences c (u.written .sealed)).sum) := by
  obtain ⟨label, fold⟩ := exists_occurrences_fold c level "android.install"
  obtain ⟨each, times, ht, command⟩ := exists_occurrences_command hs hd (level + 1)
    (k := componentUse [] .null) rfl
  refine ⟨label + occurrences c (level + 1) (alone (message "Installing Android dependencies")),
    each, times, ht, fun components hn licenses => ?_⟩
  have text (u : Setting) : Text.occurrences c (componentUse licenses u).text =
      Text.occurrences c "android-update-sdk --components=" +
        Text.occurrences c (u.written .sealed) + Text.occurrences c (acceptance licenses) := by
    rw [← Text.occurrences_append, ← Text.occurrences_append]
    rfl
  have use (u : Setting) : occurrences c (level + 1) [.command (componentUse licenses u)] =
      each + times * (Text.occurrences c "android-update-sdk --components=" +
        Text.occurrences c (acceptance licenses)) + times * Text.occurrences c (u.written .sealed) := by
    have one := command (componentUse licenses u).text (opens_componentUse licenses u)
    change occurrences c (level + 1) [.command (componentUse licenses u)] = _ at one
    rw [one, text, Nat.add_right_comm, Nat.mul_add, Nat.add_assoc]
  rw [componentNodes, if_neg (by simpa using hn), fold, occurrences_append, occurrences_flatMap,
    funext use, sum_map_const_add, List.sum_map_mul_left, Nat.add_assoc]

/-- More components whose texts hold as much count for more, since each of them names the tool. -/
theorem occurrences_componentNodes_lt {us vs : List Setting} (hl : us.length < vs.length)
    (texts : (us.map fun u => Text.occurrences 'k' (u.written .sealed)).sum =
      (vs.map fun u => Text.occurrences 'k' (u.written .sealed)).sum)
    (licenses licenses' : List String) (same : us ≠ [] → licenses = licenses') (level : Int) :
    occurrences 'k' level (componentNodes us licenses) <
      occurrences 'k' level (componentNodes vs licenses') := by
  obtain ⟨front, each, times, ht, nodes⟩ :=
    exists_occurrences_components (c := 'k') (by decide) (by decide) level
  have tool : Text.occurrences 'k' "android-update-sdk --components=" = 1 := by decide
  have use : 0 < each + times * (1 + Text.occurrences 'k' (acceptance licenses')) :=
    Nat.add_pos_right each (Nat.mul_pos ht (by omega))
  have hv : vs ≠ [] := List.ne_nil_of_length_pos (Nat.zero_lt_of_lt hl)
  rw [nodes vs hv, tool, ← texts]
  by_cases hu : us = []
  · subst hu
    exact Nat.add_pos_right front (Nat.add_pos_left (Nat.mul_pos hl use) _)
  · rw [nodes us hu, tool, same hu]
    exact Nat.add_lt_add_left (Nat.add_lt_add_right (Nat.mul_lt_mul_of_pos_right hl use) _) _

theorem occurrences_componentNodes_lt_of_licenses (hs : c ≠ '\'') (hd : c ≠ '"')
    {components : List Setting} (hn : components ≠ []) {licenses licenses' : List String}
    (more : Text.occurrences c (acceptance licenses) < Text.occurrences c (acceptance licenses'))
    (level : Int) : occurrences c level (componentNodes components licenses) <
      occurrences c level (componentNodes components licenses') := by
  obtain ⟨front, each, times, ht, nodes⟩ := exists_occurrences_components hs hd level
  have use : times * (Text.occurrences c "android-update-sdk --components=" +
        Text.occurrences c (acceptance licenses)) <
      times * (Text.occurrences c "android-update-sdk --components=" +
        Text.occurrences c (acceptance licenses')) :=
    Nat.mul_lt_mul_of_pos_left (Nat.add_lt_add_left more _) ht
  rw [nodes components hn, nodes components hn]
  exact Nat.add_lt_add_left (Nat.add_lt_add_right (Nat.mul_lt_mul_of_pos_left
    (Nat.add_lt_add_left use each) (List.length_pos_iff.mpr hn)) _) front

end Profile

namespace Compiler

variable {r : Resolution} {co : Option Entries} {x : Compiled}

theorem Completed.exists_installed (h : Completed r co x) (hp : x.profile = .android) :
    ∃ components licenses, Profile.Installed x.build components licenses := by
  have hook := h.succeeds_hook .setup rfl
  obtain ⟨_, setup⟩ := h.stages .setup
  rw [hp] at hook setup
  obtain ⟨components, hc, hl⟩ := Profile.android_of_setup hook
  obtain ⟨_, after⟩ := (Profile.nodes_setup setup).2.2
  obtain ⟨version, hj, -⟩ := after.of_read_bind
  obtain ⟨licenses, hl⟩ : ∃ licenses : List String, components ≠ [] →
      Profile.androidList x.build "licenses" = .ok (licenses.map .text) := by
    by_cases hn : components = []
    · exact ⟨[], fun h => absurd hn h⟩
    · obtain ⟨licenses, held, text⟩ := hl hn
      obtain ⟨texts, rfl⟩ := Profile.exists_texts text
      exact ⟨texts, fun _ => held⟩
  exact ⟨components, licenses, hc, hl, version, hj,
    (Profile.writes_afterCache_android hj hc hl).alone_eq⟩

end Compiler

end BuildScript

import BuildScript.Compiler

/-! # Payloads in their normal form

Validation reads a switch in several spellings and fills in what is left out. What it accepts can be
written out in full, and is then accepted as it stands: a payload is its own normal form. So it is
all one whether a compilation starts from an object, from the payload that the object is read as, or
from that payload written out.
-/

namespace BuildScript

namespace Validation

variable {place place' : List Place} {es : Entries} {name : String}

/-! ## Values that are read as they stand -/

theorem hostEntries_map (place : List Place) (hosts : List (String × String)) :
    hostEntries place (.mapping (hosts.map fun h => (.text h.1, .text h.2))) = accept hosts := by
  have checked : (hosts.map fun h => (Scalar.text h.1, Setting.text h.2)).map (host place) =
      hosts.map accept := List.map_map
  have values : (hosts.map accept).map Checked.value = hosts := by
    rw [List.map_map]
    exact List.map_id hosts
  have details : (hosts.map accept).flatMap Checked.details = [] := by
    rw [List.flatMap_map]
    exact List.flatMap_eq_nil_iff.mpr fun _ _ => rfl
  simp only [hostEntries, checked, values, details]
  rfl

def variableEntries (v : RepositoryVariable) : Setting := .mapping [
  (.text "name", .text v.name), (.text "value", .text v.value), (.text "public", .bool v.isPublic)]

theorem repositoryVariable_variableEntries (place : List Place) (v : RepositoryVariable) :
    repositoryVariable place (variableEntries v) = accept v := rfl

theorem repositoryVariablesFrom_map (place : List Place) (index : Nat)
    (vs : List RepositoryVariable) :
    repositoryVariablesFrom place index (vs.map variableEntries) = accept vs := by
  induction vs generalizing index with
  | nil => rfl
  | cons v vs ih =>
    rw [List.map_cons, repositoryVariablesFrom, ih, repositoryVariable_variableEntries]
    rfl

def Named (es : Entries) : Prop := ∀ e ∈ es, ∃ s, e.1 = .text s

theorem keyDetails_eq_nil_iff {key : Scalar} :
    keyDetails place key = [] ↔ ∃ s, key = .text s := by
  cases key <;> simp [keyDetails]

theorem entries_mapping (h : Named es) (place : List Place) :
    entries place (.mapping es) = accept es := by
  have names : (es.flatMap fun e => keyDetails place e.1) = [] :=
    List.flatMap_eq_nil_iff.mpr fun e he => keyDetails_eq_nil_iff.mpr (h e he)
  exact congrArg (Checked.mk es) names

theorem named_of_entries {s : Setting} (h : (entries place s).details = []) :
    Named (entries place s).value := by
  cases s with
  | mapping es => exact fun e he => keyDetails_eq_nil_iff.mp (List.flatMap_eq_nil_iff.mp h e he)
  | _ => cases h

theorem named_of_optionalField (h : (optionalField es name [] entries place).details = []) :
    Named (optionalField es name [] entries place).value := by
  unfold optionalField at h ⊢
  split
  · next found =>
    rw [found] at h
    exact named_of_entries h
  · exact fun _ he => absurd he List.not_mem_nil

end Validation

namespace Payload

open Validation

structure Named (p : Payload) : Prop where
  config : Validation.Named p.config
  cacheOptions : Validation.Named p.cacheOptions
  repository : Validation.Named p.repository
  job : Validation.Named p.job

theorem named_of_check {es : Entries} (h : (check es).details = []) : (check es).value.Named := by
  simp only [check, List.append_eq_nil_iff] at h
  obtain ⟨⟨⟨⟨⟨⟨⟨⟨config, -⟩, -⟩, -⟩, -⟩, -⟩, cacheOptions⟩, repository⟩, job⟩ := h
  exact ⟨named_of_optionalField config, named_of_optionalField cacheOptions,
    named_of_optionalField repository, named_of_optionalField job⟩

theorem check_toEntries {p : Payload} (h : p.Named) : check p.toEntries = accept p := by
  have config : optionalField p.toEntries "config" [] entries = accept p.config :=
    entries_mapping h.config _
  have envVars : optionalField p.toEntries "env_vars" [] repositoryVariables = accept p.envVars :=
    repositoryVariablesFrom_map _ 0 p.envVars
  have paranoid : optionalField p.toEntries "paranoid" false switch = accept p.paranoid := rfl
  have resolv : optionalField p.toEntries "skip_resolv_updates" false switch =
    accept p.skipResolvUpdates := rfl
  have etcHosts : optionalField p.toEntries "skip_etc_hosts_fix" false switch =
    accept p.skipEtcHostsFix := rfl
  have hosts : optionalField p.toEntries "hosts" [] hostEntries = accept p.hosts :=
    hostEntries_map _ p.hosts
  have cacheOptions : optionalField p.toEntries "cache_options" [] entries =
    accept p.cacheOptions := entries_mapping h.cacheOptions _
  have repository : optionalField p.toEntries "repository" [] entries = accept p.repository :=
    entries_mapping h.repository _
  have job : optionalField p.toEntries "job" [] entries = accept p.job := entries_mapping h.job _
  rw [check, config, envVars, paranoid, resolv, etcHosts, hosts, cacheOptions, repository, job]
  rfl

theorem ofSetting_toEntries {p : Payload} (h : p.Named) :
    ofSetting (.mapping p.toEntries) = .ok p := by
  have full : Entries.contains p.toEntries "config" = true := rfl
  have names : (p.toEntries.all fun e => keyDetails [] e.1 = []) = true := rfl
  rw [ofSetting, ofEntries, if_pos full, if_pos names, check_toEntries h]
  rfl

/-- What is accepted as a payload is one that its fields give without a violation. A bare spec is the
one field of its payload. -/
theorem exists_check_of_ok {es : Entries} {p : Payload} (h : ofSetting (.mapping es) = .ok p) :
    ∃ full, (full = es ∨ full = [(.text "config", .mapping es)]) ∧
      (check full).details = [] ∧ (check full).value = p := by
  have checked (full : Entries) (h : (check full).toExcept.mapError Invalid.fields = .ok p) :
      (check full).details = [] ∧ (check full).value = p := by
    by_cases none : (check full).details = []
    · rw [Checked.toExcept, if_pos none] at h
      exact ⟨none, Except.ok.inj h⟩
    · rw [Checked.toExcept, if_neg none] at h
      cases h
  simp only [ofSetting, ofEntries] at h
  split at h
  · split at h
    · exact ⟨es, .inl rfl, checked es h⟩
    · cases h
  · exact ⟨_, .inr rfl, checked _ h⟩

theorem named_of_ok {es : Entries} {p : Payload} (h : ofSetting (.mapping es) = .ok p) :
    p.Named := by
  obtain ⟨_, -, none, rfl⟩ := exists_check_of_ok h
  exact named_of_check none

theorem ofSetting_bare {c : Entries} (h : Entries.contains c "config" = false) :
    ofSetting (.mapping c) = ofSetting (.mapping [(.text "config", .mapping c)]) := by
  have full : Entries.contains [(.text "config", .mapping c)] "config" = true := rfl
  have names : ([(Scalar.text "config", Setting.mapping c)].all fun e =>
    keyDetails [] e.1 = []) = true := rfl
  simp only [ofSetting]
  rw [ofEntries, ofEntries, if_neg (by simp [h]), if_pos full, if_pos names]

end Payload

namespace Compiler

/-- What a compilation is asked for: a payload, or a setting that has to be one. -/
inductive Given
  | payload (p : Payload)
  | setting (s : Setting)

/-- The payload and the options of a compilation, checked in this order. -/
def Given.prepare (options : Entries) : Given → Except Fault (Payload × Options)
  | .payload p => ((Options.ofEntries options).mapError .invalidOptions).map (p, ·)
  | .setting s => Compiler.prepare s options

/-- Compiles what is given, with the templates that the options ask for. -/
def compileGiven (given : Given) (options : Entries) (cacheOptions : Option Entries)
    (templates : Options → Template.Renderer) : Except Fault String × Journal :=
  match given.prepare options with
  | .ok (p, o) => compilePayload p o cacheOptions (templates o)
  | .error e => (.error e, [])

theorem Given.prepare_setting {s : Setting} {p : Payload} (h : Payload.ofSetting s = .ok p)
    (options : Entries) : (Given.setting s).prepare options = (Given.payload p).prepare options := by
  simp only [Given.prepare, Compiler.prepare, h]
  cases (Options.ofEntries options).mapError Fault.invalidOptions <;> rfl

theorem compileGiven_setting {s : Setting} {p : Payload} (h : Payload.ofSetting s = .ok p) :
    compileGiven (.setting s) = compileGiven (.payload p) := by
  funext options cacheOptions templates
  simp only [compileGiven, Given.prepare_setting h]

/-- An object that is accepted as a payload is read as the same payload once that is written out,
and all three compile alike, with the same text or fault and the same notices. A bare spec is read
like the object that has it for its spec. -/
theorem validation_normalises :
    (∀ es p, Payload.ofSetting (.mapping es) = .ok p →
      Payload.ofSetting (.mapping p.toEntries) = .ok p ∧
      compileGiven (.setting (.mapping es)) = compileGiven (.payload p) ∧
      compileGiven (.setting (.mapping p.toEntries)) = compileGiven (.payload p)) ∧
    ∀ c, Entries.contains c "config" = false →
      Payload.ofSetting (.mapping c) =
        Payload.ofSetting (.mapping [(.text "config", .mapping c)]) := by
  refine ⟨fun es p h => ?_, fun _ => Payload.ofSetting_bare⟩
  have again : Payload.ofSetting (.mapping p.toEntries) = .ok p :=
    Payload.ofSetting_toEntries (Payload.named_of_ok h)
  exact ⟨again, compileGiven_setting h, compileGiven_setting again⟩

/-- Switches that are words and numbers come back as truth values, and what was left out is there. -/
theorem validation_normalises_switches :
    let es : Entries := [
      (.text "config", .mapping [(.text "language", .text "c")]),
      (.text "env_vars", .list [.mapping [
        (.text "name", .text "A"), (.text "value", .text ""), (.text "public", .int 1)]]),
      (.text "paranoid", .text "YES"), (.text "skip_etc_hosts_fix", .text "oFf"),
      (.text "hosts", .mapping [(.text "apt_cache", .text "http://cache")]),
      (.text "unknown", .null)]
    let p : Payload := {
      config := [(.text "language", .text "c")], envVars := [⟨"A", "", true⟩], paranoid := true
      hosts := [("apt_cache", "http://cache")] }
    Payload.ofSetting (.mapping es) = .ok p ∧ Payload.ofSetting (.mapping p.toEntries) = .ok p ∧
      compileGiven (.setting (.mapping es)) = compileGiven (.setting (.mapping p.toEntries)) ∧
      Payload.ofSetting (.mapping [(.text "paranoid", .text "maybe")]) =
        Payload.ofSetting (.mapping [
          (.text "config", .mapping [(.text "paranoid", .text "maybe")])]) := by
  intro es p
  have accepted : Payload.ofSetting (.mapping es) = .ok p := by rfl
  obtain ⟨again, read, written⟩ := validation_normalises.1 es p accepted
  exact ⟨accepted, again, read.trans written.symm, validation_normalises.2 _ rfl⟩

end Compiler

end BuildScript

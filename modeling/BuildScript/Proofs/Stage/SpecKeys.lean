import BuildScript.Proofs.Stage.Seen

/-! # The keys of a spec that count

A compile reads a spec at its language, at its fetch status and at the settings that the selected
profile reads. Specs that hold the same there have the same build and the same compiled text,
whatever else they hold and in whatever order it stands.
-/

namespace BuildScript

def commonKeys : List String := ["language", resultKey] ++ sharedKeys

theorem commonKeys_eq : commonKeys = [
    "language", ".result", "services", "after_success", "after_failure", "before_install",
    "install", "before_script", "script", "after_result", "after_script", "cache", "addons", "env",
    "git"] := by decide

def Entries.SameAt (es fs : Entries) (name : String) : Prop :=
  get? es (.text name) = get? fs (.text name)

/-- Two payloads are the same but for their specs, and these hold the same at every key that counts
for the first. -/
structure Payload.SameSpec (p q : Payload) : Prop where
  others : p.withoutSpec = q.withoutSpec
  common {name : String} (h : name ∈ commonKeys) : p.config.SameAt q.config name
  own {profile : Profile}
    (hl : Registry.standard.get (Entries.get p.config "language") = .ok profile) {name : String}
    (h : name ∈ profile.ownKeys) : p.config.SameAt q.config name

namespace Payload.SameSpec

variable {p q : Payload} (h : p.SameSpec q)
include h

theorem get_eq {name : String} (hn : name ∈ commonKeys) :
    Entries.get p.config name = Entries.get q.config name := by
  have hs : Entries.get? p.config (.text name) = _ := h.common hn
  rw [Entries.get, Entries.get, hs]

theorem ofConfig_eq : Status.ofConfig p.config = Status.ofConfig q.config := by
  rw [Status.ofConfig, Status.ofConfig, h.get_eq (by decide)]

theorem agree (hp : p.config.Distinct) (hq : q.config.Distinct) {profile : Profile}
    (hl : Registry.standard.get (Entries.get p.config "language") = .ok profile) (status : Status)
    (co : Option Entries) :
    profile.Agree (Compiler.buildFor profile ⟨p, status⟩ co)
      (Compiler.buildFor profile ⟨q, status⟩ co) := by
  refine Profile.agree_of_given (r := ⟨p, status⟩) (s := ⟨q, status⟩) h.others co fun name hn => ?_
  have hs : Entries.get? p.config (.text name) = Entries.get? q.config (.text name) := by
    rcases List.mem_append.mp hn with hn | hn
    · exact h.common (List.mem_append_right _ hn)
    · exact h.own hl hn
  dsimp only
  rw [hp.given_eq, hq.given_eq, hs]

end Payload.SameSpec

namespace Compiler

/-- Builds of payloads that hold the same at the keys that count look and note the same, and the
payloads are compiled to the same text or fail with the same fault. -/
theorem only_known_keys_count {p q : Payload} (hp : p.config.Distinct) (hq : q.config.Distinct)
    (h : p.SameSpec q) (co : Option Entries) :
    Alike (buildPayload p co) (buildPayload q co) ∧
      ∀ options templates,
        compilePayload p options co templates = compilePayload q options co templates := by
  refine payload_congr h.ofConfig_eq fun status => ?_
  have language : Entries.get p.config "language" = Entries.get q.config "language" :=
    h.get_eq (by decide)
  exact build_congr language rfl h.others fun _ hl _ ha => (h.agree hp hq hl status co).same ha

/-- A spec for C, and the same settings in another order among others that no C build reads. -/
def plainSpec : Payload where
  config := .ofList [
    (.text "language", .text "c"), (.text "compiler", .text "clang"), (.text "script", .text "make")]

def mixedSpec : Payload where
  config := .ofList [
    (.text "jdk", .text "8"), (.text "script", .text "make"), (.text "configure", .int 3),
    (.text "compiler", .text "clang"), (.text "language", .text "c"), (.bool true, .null)]

theorem sameSpec_mixedSpec : plainSpec.SameSpec mixedSpec where
  others := rfl
  common h := by
    rw [commonKeys_eq] at h
    repeat
      rcases List.mem_cons.mp h with rfl | h
      · rfl
    cases h
  own {profile} hl {name} h := by
    obtain rfl : Profile.c = profile := by
      have hc : Registry.standard.get (Entries.get plainSpec.config "language") = .ok .c :=
        Registry.get_of_lookup (by decide +kernel)
      exact Except.ok.inj (hc.symm.trans hl)
    cases List.mem_singleton.mp h
    rfl

theorem only_known_keys_count_mixed :
    Alike (buildPayload plainSpec none) (buildPayload mixedSpec none) :=
  (only_known_keys_count (Entries.distinct_ofList _) (Entries.distinct_ofList _)
    sameSpec_mixedSpec none).1

end Compiler

end BuildScript

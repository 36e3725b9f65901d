import BuildScript.Proofs.Stage.Documented
import BuildScript.Proofs.Stage.Seen

/-! # One text for a list

At the settings whose readers make a list of what they find, one text means the list of that text:
the services, the commands of the custom stages and after the result, the lines of the environment
and the values of the addons. A build cannot tell the two apart.
-/

namespace BuildScript

open Drafting Capability

/-- The paths of the settings that hold one text or a list of them. -/
def listPaths : List (List String) :=
  textKeys.map (fun name => [name]) ++
    [["env"], ["env", "global"], ["env", "matrix"], ["addons", "hosts"], ["addons", "apt_packages"]]

example : listPaths = [["services"], ["after_success"], ["after_failure"], ["before_install"],
    ["install"], ["before_script"], ["script"], ["after_result"], ["after_script"], ["env"],
    ["env", "global"], ["env", "matrix"], ["addons", "hosts"], ["addons", "apt_packages"]] := by
  decide

theorem mem_listPaths {path : List String} (h : path ∈ listPaths) :
    (∃ name ∈ textKeys, path = [name]) ∨
      (∃ rest, (rest = [] ∨ rest = ["global"] ∨ rest = ["matrix"]) ∧ path = "env" :: rest) ∨
      ∃ name, path = ["addons", name] := by
  rcases List.mem_append.mp h with h | h
  · obtain ⟨name, hn, rfl⟩ := List.mem_map.mp h
    exact .inl ⟨name, hn, rfl⟩
  · simp only [List.mem_cons, List.not_mem_nil, or_false] at h
    rcases h with rfl | rfl | rfl | rfl | rfl
    · exact .inr (.inl ⟨_, .inl rfl, rfl⟩)
    · exact .inr (.inl ⟨_, .inr (.inl rfl), rfl⟩)
    · exact .inr (.inl ⟨_, .inr (.inr rfl), rfl⟩)
    · exact .inr (.inr ⟨_, rfl⟩)
    · exact .inr (.inr ⟨_, rfl⟩)

theorem exists_cons_of_mem_listPaths {path : List String} (h : path ∈ listPaths) :
    ∃ name rest, name ∈ sharedKeys ∧ path = name :: rest := by
  rcases mem_listPaths h with ⟨name, hn, rfl⟩ | ⟨rest, -, rfl⟩ | ⟨name, rfl⟩
  · exact ⟨name, [], List.mem_append_left _ hn, rfl⟩
  · exact ⟨"env", rest, by decide, rfl⟩
  · exact ⟨"addons", [name], by decide, rfl⟩

namespace Environment

theorem groups_eq {b : Build} {env : Setting} (h : b.setting "env" = .ok env) :
    groups b = .ok [⟨"repository settings", b.payload.envVars.map ofRepository⟩,
      ⟨specFile, (lines env).flatMap ofLine⟩] := by
  rw [groups, h]
  rfl

theorem lines_put_congr {name : String} (hn : name = "global" ∨ name = "matrix") {v w : Setting}
    (h : lines v = lines w) (es : Entries) :
    lines (.mapping (es.put (.text name) v)) = lines (.mapping (es.put (.text name) w)) := by
  have held (u : Setting) : Entries.get (es.put (.text name) u) name = u := by
    rw [Entries.get, Entries.get?_put_text_self]
    rfl
  have sections (u : Setting) : (Entries.contains (es.put (.text name) u) "global" ||
      Entries.contains (es.put (.text name) u) "matrix") = true := by
    rcases hn with rfl | rfl <;> simp [Entries.contains, Entries.get?_put_text_self]
  have others {other : String} (ho : other ≠ name) (u : Setting) :
      Entries.get (es.put (.text name) u) other = Entries.get es other :=
    Entries.get_eq_of_given (Entries.given_put_of_ne ho es u)
  rw [lines, lines, if_pos (sections v), if_pos (sections w)]
  simp only [sectionLines_eq]
  rcases hn with rfl | rfl
  · rw [held, held, others (by decide), others (by decide), h]
  · rw [held, held, others (by decide), others (by decide), h]

end Environment

namespace Capability

/-- Where two settings do the same under a key, it does not matter which one is put there. -/
theorem forM_put_congr {f : Scalar × Setting → Drafting Unit} {name : String} {v w : Setting}
    (h : f (.text name, v) = f (.text name, w)) (es : Entries) :
    (es.put (.text name) v).forM f = (es.put (.text name) w).forM f := by
  induction es with
  | nil => exact congrArg (fun x => x >>= fun _ => pure ()) h
  | cons e rest ih =>
    unfold Entries.put
    split
    · next hk =>
      rw [Scalar.sameKey_text.mp hk]
      exact congrArg (fun x => x >>= fun _ => rest.forM f) h
    · exact congrArg (fun x => f e >>= fun _ => x) ih

theorem runAddon_single (hook : String) (key : Scalar) (s : String) :
    runAddon (fun a config => a.part? config hook) hook (key, .text s) =
      runAddon (fun a config => a.part? config hook) hook (key, .list [.text s]) := by
  have part (a : Addon) : a.part? (.text s) hook = a.part? (.list [.text s]) hook := by
    unfold Addon.part?
    by_cases hc : hook = "config"
    · subst hc
      rfl
    · split
      · rfl
      · split <;> simp_all
  have run (a : Addon) (part : Addon.Part) :
      a.run .sealed (.text s) part = a.run .sealed (.list [.text s]) part := by
    cases part <;> rfl
  simp only [runAddon, part, run]

theorem runAddons_single {b c : Build} (hp : b.payload.paranoid = c.payload.paranoid)
    {es : Entries} {name s : String}
    (hb : b.setting "addons" = .ok (.mapping (es.put (.text name) (.text s))))
    (hc : c.setting "addons" = .ok (.mapping (es.put (.text name) (.list [.text s]))))
    (hook : String) : runAddons b hook = runAddons c hook := by
  have isSet (v : Setting) : (Setting.mapping (es.put (.text name) v)).isSet = true := by
    cases es with
    | nil => rfl
    | cons e rest =>
      unfold Entries.put
      split <;> rfl
  have same := forM_put_congr (runAddon_single hook (.text name) s) es
  simp only [runAddons, runParts, hp, hb, hc, Drafting.read, pure_bind, isSet, if_true,
    Setting.entries, same]

end Capability

namespace Profile

section Single

variable {p : Profile} {payload : Payload} (hd : payload.config.Distinct) {path : List String}
  (s : String) (status : Status) (co : Option Entries)
include hd

theorem same_texts_single {name : String} (hn : name ∈ textKeys) :
    (Aspect.texts name).Same (Compiler.buildFor p ⟨payload.place [name] (.text s), status⟩ co)
      (Compiler.buildFor p ⟨payload.place [name] (.list [.text s]), status⟩ co) := by
  have ne (other : String) (ho : other ∉ textKeys) : name ≠ other := fun he => ho (he ▸ hn)
  have missing := p.get?_defaults_of_ne (ne _ (by decide)) (ne _ (by decide)) (ne _ (by decide))
  simp only [Aspect.Same, Build.textsOf, setting_place missing hd [] _ status co]
  rfl

theorem same_environment_single {rest : List String}
    (hr : rest = [] ∨ rest = ["global"] ∨ rest = ["matrix"]) :
    Aspect.environment.Same
      (Compiler.buildFor p ⟨payload.place ("env" :: rest) (.text s), status⟩ co)
      (Compiler.buildFor p ⟨payload.place ("env" :: rest) (.list [.text s]), status⟩ co) := by
  have missing : Entries.get? p.defaults (.text "env") = none :=
    p.get?_defaults_of_ne (by decide) (by decide) (by decide)
  have lines : Environment.lines (Entries.placed payload.config "env" rest (.text s)) =
      Environment.lines (Entries.placed payload.config "env" rest (.list [.text s])) := by
    have single : Environment.lines (.text s) = Environment.lines (.list [.text s]) := rfl
    rcases hr with rfl | rfl | rfl
    · exact single
    · exact Environment.lines_put_congr (.inl rfl) single _
    · exact Environment.lines_put_congr (.inr rfl) single _
  rw [Aspect.Same, Environment.groups_eq (setting_place missing hd rest _ status co),
    Environment.groups_eq (setting_place missing hd rest _ status co), lines]
  rfl

theorem same_addons_single (name : String) :
    Aspect.addons.Same (Compiler.buildFor p ⟨payload.place ["addons", name] (.text s), status⟩ co)
      (Compiler.buildFor p ⟨payload.place ["addons", name] (.list [.text s]), status⟩ co) :=
  have missing : Entries.get? p.defaults (.text "addons") = none :=
    p.get?_defaults_of_ne (by decide) (by decide) (by decide)
  runAddons_single rfl (setting_place missing hd [name] _ status co)
    (setting_place missing hd [name] _ status co)

theorem same_single (hp : path ∈ listPaths) : ∀ a ∈ p.aspects,
    a.Same (Compiler.buildFor p ⟨payload.place path (.text s), status⟩ co)
      (Compiler.buildFor p ⟨payload.place path (.list [.text s]), status⟩ co) := by
  intro a ha
  have elsewhere {name : String} {rest : List String} (hk : a.key ≠ name) :
      a.Same (Compiler.buildFor p ⟨payload.place (name :: rest) (.text s), status⟩ co)
        (Compiler.buildFor p ⟨payload.place (name :: rest) (.list [.text s]), status⟩ co) :=
    same_of_given (r := ⟨payload.place (name :: rest) (.text s), status⟩)
      (s := ⟨payload.place (name :: rest) (.list [.text s]), status⟩) rfl co
      ((payload.given_place hk rest _).trans (payload.given_place hk rest _).symm)
  rcases mem_listPaths hp with ⟨name, hn, rfl⟩ | ⟨rest, hr, rfl⟩ | ⟨name, rfl⟩
  · by_cases hk : a.key = name
    · rw [eq_texts_of_key a ha (hk ▸ hn), hk]
      exact same_texts_single hd s status co hn
    · exact elsewhere hk
  · by_cases hk : a.key = "env"
    · rw [eq_environment_of_key a ha hk]
      exact same_environment_single hd s status co hr
    · exact elsewhere hk
  · by_cases hk : a.key = "addons"
    · rw [eq_addons_of_key a ha hk]
      exact same_addons_single hd s status co name
    · exact elsewhere hk

end Single

end Profile

namespace Compiler

/-- Where a payload holds one text at the path of a list, it is built and compiled as with the list
of that text. -/
theorem single_texts_are_lists {payload : Payload} (hd : payload.config.Distinct)
    {path : List String} (hp : path ∈ listPaths) {s : String}
    (hs : (Setting.mapping payload.config).at? (path.map Scalar.text) = some (.text s))
    (co : Option Entries) :
    Alike (buildPayload payload co) (buildPayload (payload.place path (.list [.text s])) co) ∧
      ∀ options templates, compilePayload payload options co templates =
        compilePayload (payload.place path (.list [.text s])) options co templates := by
  have here : payload.place path (.text s) = payload := payload.place_self hs
  obtain ⟨first, rest, hf, he⟩ := exists_cons_of_mem_listPaths hp
  have ne {name : String} (hn : name ∉ sharedKeys) : name ≠ first := fun he => hn (he ▸ hf)
  refine payload_congr ?_ fun status => build_congr ?_ rfl rfl fun p _ a ha => ?_
  · rw [he, payload.ofConfig_place (ne (by decide))]
  · rw [he, payload.get_place (ne (by decide))]
  · have same := Profile.same_single hd s status co hp a ha
    rwa [here] at same

def sectionedSpec : Payload where
  config := .ofList [
    (.text "language", .text "java"),
    (.text "env", .mapping [(.text "matrix", .text "DB=redis"), (.text "global", .text "")])]

theorem single_texts_are_lists_global :
    sectionedSpec.config.Distinct ∧ ["env", "global"] ∈ listPaths ∧
      (Setting.mapping sectionedSpec.config).at? [.text "env", .text "global"] = some (.text "") ∧
      ∀ options templates, compilePayload sectionedSpec options none templates =
        compilePayload (sectionedSpec.place ["env", "global"] (.list [.text ""])) options none
          templates := by
  have distinct : sectionedSpec.config.Distinct := Entries.distinct_ofList _
  have listed : ["env", "global"] ∈ listPaths := by decide
  have held : (Setting.mapping sectionedSpec.config).at? [.text "env", .text "global"] =
      some (.text "") := rfl
  exact ⟨distinct, listed, held, (single_texts_are_lists distinct listed held none).2⟩

end Compiler

end BuildScript

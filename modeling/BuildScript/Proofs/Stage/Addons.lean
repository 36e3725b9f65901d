import BuildScript.Proofs.Stage.AddonHooks

/-! # Addon settings in a payload

Addons run once each, at their hooks, in whatever order their settings are written. So the compiled
text depends on the settings of the known addons alone, and a build with addons is the build without
them, with the packages at the front of the installation and the hosts at the end of the setup.
-/

namespace BuildScript

open Shell Drafting Capability

namespace Payload

def addons (p : Payload) : Except Setting.Misuse Entries :=
  if (Entries.get p.config "addons").isSet then (Entries.get p.config "addons").entries else .ok []

theorem distinct_addons {p : Payload} (hk : (Setting.mapping p.config).Keyed) {es : Entries}
    (h : p.addons = .ok es) : es.Distinct := by
  unfold addons at h
  split at h
  · cases hs : Entries.get p.config "addons" with
    | scalar | list =>
      rw [hs] at h
      cases h
    | mapping fs =>
      rw [hs] at h
      cases h
      have inner := Entries.distinct_inner hk "addons"
      rwa [Entries.inner, hs] at inner
  · cases h
    exact .nil

theorem addons_place (p : Payload) (fs : Entries) :
    (p.place ["addons"] (.mapping fs)).addons = .ok fs := by
  have here : Entries.get (p.place ["addons"] (.mapping fs)).config "addons" = .mapping fs := by
    rw [Entries.get]
    exact congrArg (Option.getD · _) (Entries.get?_place_self p.config "addons" [] _)
  rw [addons, here]
  cases fs <;> rfl

theorem addons_without (p : Payload) : (p.without "addons").addons = .ok [] := by
  have null : Entries.get (p.without "addons").config "addons" = .null :=
    congrArg (Option.getD · _) (Entries.get?_erase_self p.config "addons")
  rw [addons, null]
  rfl

end Payload

/-- A build is another one with packages at the beginning of its installation and hosts at the end
of its setup, and nothing else. -/
structure Compiled.Adds (names packages : List String) (c d : Compiled) : Prop where
  profile : d.profile = c.profile
  finish : d.finish = c.finish
  body : c.body = c.status.nodes ++ Stage.all.flatMap (c.profile.nodes c.build)
  rest : d.body = c.status.nodes ++ Stage.all.flatMap (d.profile.nodes d.build)
  nodes (stage : Stage) : c.profile.nodes c.build stage =
    (if stage = .install then Addon.aptPackages.nodes packages else []) ++
      (d.profile.nodes d.build stage ++
        if stage = .preSetup then Addon.hosts.nodes names else [])

namespace Compiler

variable {p : Profile} {b c : Build} {payload : Payload} {es fs : Entries}

theorem compose_fst_congr (stages : ∀ stage, Concur (p.run b stage) (p.run c stage))
    (exit : p.onExit b = p.onExit c) (status : Status) (j : Journal) :
    (compose p b (p.hook b (p.support b)) status ⟨{}, j⟩).1 =
      (compose p c (p.hook c (p.support c)) status ⟨{}, j⟩).1 := by
  have hc := Pipeline.writes_checkConfig status
  by_cases hs : status = .serverError
  · rw [decide_eq_false (not_not_intro hs)] at hc
    rw [compose_of_stopped (Pipeline.run_of_stopped hc),
      compose_of_stopped (Pipeline.run_of_stopped hc)]
  rw [decide_eq_true hs] at hc
  have all : Concur (Stage.all.forM (Pipeline.runStage b (p.hook b (p.support b))))
      (Stage.all.forM (Pipeline.runStage c (p.hook c (p.support c)))) :=
    .forM fun stage _ => stages stage
  cases all with
  | fails hx hy =>
    obtain ⟨_, hx⟩ := compose_of_fails (p := p) (Pipeline.run_of_fails hc hx) j
    obtain ⟨_, hy⟩ := compose_of_fails (p := p) (Pipeline.run_of_fails hc hy) j
    rw [hx, hy]
  | writes hx hy =>
    have hx := Pipeline.run_of_writes hc hx
    have hy := Pipeline.run_of_writes hc hy
    cases Profile.steady_onExit (P := AnyNodes) (F := Unstructural) p b with
    | fails he _ => rw [compose_of_exit_fails hx he, compose_of_exit_fails hy (exit ▸ he)]
    | writes he => rw [compose_of_completed hx he, compose_of_completed hy (exit ▸ he)]

theorem entriesOf_addons (hd : payload.config.Distinct) (p : Profile) (status : Status)
    (co : Option Entries) :
    (buildFor p ⟨payload, status⟩ co).entriesOf "addons" = payload.addons := by
  have missing : Entries.get? p.defaults (.text "addons") = none :=
    p.get?_defaults_of_ne (by decide) (by decide) (by decide)
  rw [Build.entriesOf, Profile.setting_eq, Entries.get, Profile.merged, hd.get?_overlay missing]
  rfl

theorem butAddons_of_given {r s : Resolution} (hw : r.payload.withoutSpec = s.payload.withoutSpec)
    (hg : ∀ name, name ≠ "addons" →
      Entries.given r.payload.config name = Entries.given s.payload.config name)
    (p : Profile) (co : Option Entries) :
    Profile.ButAddons (buildFor p r co) (buildFor p s co) where
  outside := Profile.sameOutside_of_payload hw co
  same h := Profile.same_of_given hw co (hg _ h)

section Payload

variable (hk : (Setting.mapping payload.config).Keyed) (hp : payload.paranoid = false)
include hk hp

theorem seen_of_perm (hes : payload.addons = .ok es) (h : (known es).Perm (known fs))
    (status : Status) (co : Option Entries) :
    (build ⟨payload.place ["addons"] (.mapping fs), status⟩ co).1.map Compiled.seen =
      (build ⟨payload, status⟩ co).1.map Compiled.seen := by
  symm
  refine seen_build_congr (payload.get_place (by decide) _ _).symm rfl fun p _ => ?_
  have but : Profile.ButAddons (buildFor p ⟨payload, status⟩ co)
      (buildFor p ⟨payload.place ["addons"] (.mapping fs), status⟩ co) :=
    butAddons_of_given (r := ⟨payload, status⟩)
      (s := ⟨payload.place ["addons"] (.mapping fs), status⟩) rfl
      (fun name hn => (payload.given_place hn _ _).symm) p co
  have entries := (entriesOf_addons hk.distinct p status co).trans hes
  have placed := (entriesOf_addons (hk.distinct.place ["addons"] _) p status co).trans
    (payload.addons_place fs)
  have stages (stage : Stage) : Concur (p.run (buildFor p ⟨payload, status⟩ co) stage)
      (p.run (buildFor p ⟨payload.place ["addons"] (.mapping fs), status⟩ co) stage) := by
    have own := Profile.concur_run (p := p) hp entries stage
    simp only [atHook_congr (Payload.distinct_addons hk hes) h, Profile.inner_congr but] at own
    exact own.trans (Profile.concur_run hp placed stage).symm
  exact ⟨compose_fst_congr stages (Profile.onExit_congr but.outside but.cached) status _,
    Profile.cacheSlug_eq_of_same fun a ha => but.cached a (List.mem_append_right _ ha)⟩

/-- A completed build and the build without its addons differ in what the addons write: the packages
at the beginning of the installation, and the hosts at the end of the setup. -/
theorem Completed.without_addons {status : Status} {co : Option Entries} {c : Compiled}
    (h : Completed ⟨payload, status⟩ co c) :
    ∃ es names packages, payload.addons = .ok es ∧
      (Entries.get es "hosts").optionalTexts .sealed = .ok names ∧
      (Entries.get es "apt_packages").optionalTexts .sealed = .ok packages ∧
      (composed c.profile ⟨payload.without "addons", status⟩ co).1 = .ok (status.nodes ++
        Stage.all.flatMap (c.profile.nodes
          (buildFor c.profile ⟨payload.without "addons", status⟩ co)), c.finish) ∧
      ∀ stage, c.profile.nodes c.build stage =
        (if stage = .install then Addon.aptPackages.nodes packages else []) ++
          (c.profile.nodes (buildFor c.profile ⟨payload.without "addons", status⟩ co) stage ++
            if stage = .preSetup then Addon.hosts.nodes names else []) := by
  have but : Profile.ButAddons c.build
      (buildFor c.profile ⟨payload.without "addons", status⟩ co) := by
    rw [h.build]
    exact butAddons_of_given (r := ⟨payload, status⟩) (s := ⟨payload.without "addons", status⟩) rfl
      (fun name hn => (payload.given_without hn).symm) c.profile co
  have trusted : c.build.payload.paranoid = false := by
    rw [h.build]
    exact hp
  obtain ⟨js, setup⟩ := h.stages .preSetup
  obtain ⟨es, entries⟩ := Profile.exists_entriesOf trusted setup
  have hes : payload.addons = .ok es := by
    rw [← entriesOf_addons hk.distinct c.profile status co, ← h.build]
    exact entries
  have framed (stage : Stage) : Profile.Framed c.profile c.build es stage := by
    obtain ⟨_, hw⟩ := h.stages stage
    exact Profile.framed_of_writes trusted entries hw
  have none := (entriesOf_addons (hk.distinct.erase "addons") c.profile status co).trans
    payload.addons_without
  have bare (stage : Stage) := (framed stage).bare but hp none
  have distinct := Payload.distinct_addons hk hes
  obtain ⟨_, setup⟩ := (framed .preSetup).after
  obtain ⟨_, install⟩ := (framed .install).before
  obtain ⟨names, hn, hosts⟩ := exists_values (a := .hosts) distinct setup
  obtain ⟨packages, ha, apt⟩ := exists_values (a := .aptPackages) distinct install
  refine ⟨es, names, packages, hes, hn, ha, ?_, fun stage => ?_⟩
  · have exit := Profile.onExit_congr (p := c.profile) but.outside but.cached
    have all := composed_of_writes (r := ⟨payload.without "addons", status⟩) h.status
      (fun stage => (bare stage).2) (exit ▸ h.exit)
    rw [all, h.finish, exit]
  · rw [(framed stage).nodes_eq, (bare stage).1, ← hosts, ← apt]
    rfl

theorem exists_without_addons {status : Status} {co : Option Entries} {c : Compiled}
    (h : (build ⟨payload, status⟩ co).1 = .ok c) (hf : c.finish.isSome) :
    ∃ es names packages d, payload.addons = .ok es ∧
      (Entries.get es "hosts").optionalTexts .sealed = .ok names ∧
      (Entries.get es "apt_packages").optionalTexts .sealed = .ok packages ∧
      (build ⟨payload.without "addons", status⟩ co).1 = .ok d ∧ c.Adds names packages d := by
  have completed := completed_of_finish h hf
  obtain ⟨es, names, packages, hes, hn, ha, hd, nodes⟩ := completed.without_addons hk hp
  obtain ⟨p, scripts, hl, -, rfl⟩ := exists_composed h
  have hl : Registry.standard.get (Entries.get (payload.without "addons").config "language") =
      .ok p := by
    rw [payload.get_without (by decide)]
    exact hl
  exact ⟨es, names, packages, _, hes, hn, ha,
    build_of_composed (r := ⟨payload.without "addons", status⟩) hl hd,
    ⟨rfl, rfl, completed.body, rfl, nodes⟩⟩

/-- The addons run once each, at their hooks. What is compiled depends neither on the order of their
settings nor on the unknown ones among them, and a completed build is the build without its addons
but for the packages that begin the installation and the hosts that end the setup. -/
theorem addons_run_once_at_their_hooks (co : Option Entries) :
    (∀ es fs, payload.addons = .ok es → (known es).Perm (known fs) → ∀ options templates,
      (compilePayload (payload.place ["addons"] (.mapping fs)) options co templates).1 =
        (compilePayload payload options co templates).1) ∧
    ∀ c, (buildPayload payload co).1 = .ok c → c.finish.isSome → ∃ es names packages d,
      payload.addons = .ok es ∧
      (Entries.get es "hosts").optionalTexts .sealed = .ok names ∧
      (Entries.get es "apt_packages").optionalTexts .sealed = .ok packages ∧
      (buildPayload (payload.without "addons") co).1 = .ok d ∧ c.Adds names packages d := by
  obtain ⟨status, hs⟩ : ∃ status, (Status.ofConfig payload.config).1 = status := ⟨_, rfl⟩
  constructor
  · intro es fs hes h options templates
    have placed : (Status.ofConfig (payload.place ["addons"] (.mapping fs)).config).1 = status := by
      rw [payload.ofConfig_place (by decide), hs]
    rw [compilePayload_fst_of_status hs, compilePayload_fst_of_status placed]
    exact compile_fst_congr (seen_of_perm hk hp hes h status co) options templates
  · intro c hc hf
    have without : (Status.ofConfig (payload.without "addons").config).1 = status := by
      rw [payload.ofConfig_without (by decide), hs]
    rw [buildPayload_fst_of_status hs] at hc
    simp only [buildPayload_fst_of_status without]
    exact exists_without_addons hk hp hc hf

end Payload

def buildAddons : Entries := [
  (.text "rust", .null), (.text "apt_packages", .list [.text "cmake"]),
  (.text "hosts", .text "build.local")]

def reorderedAddons : Entries := [
  (.text "hosts", .text "build.local"), (.text "apt_packages", .list [.text "cmake"])]

def addonSpec : Payload where
  config := .ofList [(.text "language", .text "haskell"), (.text "addons", .mapping buildAddons)]

theorem keyed_addonSpec : (Setting.mapping addonSpec.config).Keyed := by
  have addons : (Setting.mapping buildAddons).Keyed := by
    have packages := (Setting.Keyed.single (.text "rust") (.scalar .null)).put
      (.text "apt_packages") (.list [.text "cmake"])
    exact packages.put (.text "hosts") (.scalar _)
  exact Setting.keyed_ofList
    (List.forall_mem_cons.mpr ⟨.scalar _, List.forall_mem_singleton.mpr addons⟩)

theorem addons_run_once_at_their_hooks_cmake :
    (∀ options templates,
      (compilePayload (addonSpec.place ["addons"] (.mapping reorderedAddons)) options none
        templates).1 = (compilePayload addonSpec options none templates).1) ∧
    ∃ c d, (buildPayload addonSpec none).1 = .ok c ∧
      (buildPayload (addonSpec.without "addons") none).1 = .ok d ∧
      c.Adds ["build.local"] ["cmake"] d := by
  have hes : addonSpec.addons = .ok buildAddons := rfl
  have perm : (known buildAddons).Perm (known reorderedAddons) := .swap _ _ []
  have law := addons_run_once_at_their_hooks keyed_addonSpec rfl none
  refine ⟨law.1 buildAddons reorderedAddons hes perm, ?_⟩
  obtain ⟨c, hc, hf⟩ := exists_of_any (P := fun c => c.finish.isSome)
    (show (build ⟨addonSpec, .configured⟩ none).1.toOption.any _ = true by decide +kernel)
  have hb := (buildPayload_fst_of_status (p := addonSpec) rfl none).trans hc
  obtain ⟨es, names, packages, d, he, hn, ha, hd, adds⟩ := law.2 c hb hf
  cases hes.symm.trans he
  cases hn
  cases ha
  exact ⟨c, d, hb, hd, adds⟩

end Compiler

end BuildScript

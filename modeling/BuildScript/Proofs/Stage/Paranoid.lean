import BuildScript.Proofs.Setting.Placing
import BuildScript.Proofs.Shell.Layout
import BuildScript.Proofs.Stage.Completed
import BuildScript.Proofs.Stage.Documented
import BuildScript.Proofs.Stage.Seen

/-! # Paranoid builds

A paranoid build never reads its addons. Its services it starts, before it reports that they have
been disabled: the body is that of the payload without them and, at one place, the fold in which
they are started.
-/

namespace BuildScript

open Shell Drafting Capability

namespace Payload

def bare (p : Payload) : Payload := (p.without "addons").without "services"

variable (p : Payload) {name other : String}

theorem given_bare (hs : name ≠ "services") (ha : name ≠ "addons") :
    Entries.given p.bare.config name = Entries.given p.config name :=
  ((p.without "addons").given_without hs).trans (p.given_without ha)

theorem get_bare (hs : name ≠ "services") (ha : name ≠ "addons") :
    Entries.get p.bare.config name = Entries.get p.config name :=
  Entries.get_eq_of_given (p.given_bare hs ha)

theorem ofConfig_bare : Status.ofConfig p.bare.config = Status.ofConfig p.config :=
  ((p.without "addons").ofConfig_without (by decide)).trans (p.ofConfig_without (by decide))

end Payload

namespace Capability

def serviceNodes (names : List String) : List Node :=
  if names.isEmpty then []
  else [.fold "services" ((names.map fun name =>
    .command { text := "sudo service " ++ serviceName name ++ " start", echo := true }) ++
      [.raw "sleep 3"])]

theorem serviceNodes_nil : serviceNodes [] = [] := rfl

theorem writes_startServices (names : List String) :
    Writes (startServices names) () (serviceNodes names) [] := by
  unfold startServices serviceNodes
  split
  · exact Writes.pure ()
  · have commands := Writes.forM (fun name => writes_command
      { text := "sudo service " ++ serviceName name ++ " start", echo := true } "") names
    rw [List.map_eq_flatMap]
    exact (commands.bind (writes_append _)).fold "services"

theorem one_lt_length_statements {names : List String} (h : names ≠ []) (level : Int) :
    1 < (statements level (serviceNodes names)).length := by
  rw [serviceNodes, if_neg (by simpa using h), statements, bodyPieces_singleton, Node.pieces]
  simp

end Capability

namespace Profile

variable {p : Profile} {b c : Build} {js : Journal} {names : List String}

def afterServices (p : Profile) (b : Build) : Drafting Unit := do
  if ← read (b.caches "apt") then
    (p.support b).fix .aptCache
  (p.support b).fix .ps4
  runAddons b "after_pre_setup"

theorem run_preSetup (p : Profile) (b : Build) :
    p.run b .preSetup = (do
      note (.running .preSetup)
      let names ← read (b.textsOf "services")
      startServices names
      p.afterServices b) := by
  rw [run_of_builtin rfl, hook_preSetup]
  rfl

theorem steady_afterServices : Steady AnyNodes Unstructural (p.afterServices b) :=
  have fix := (steady_support (P := AnyNodes) (F := Unstructural) p b).fix
  .bind (.read _) fun _ => .when (fix _) (.bind (fix _) fun _ => steady_after b .preSetup)

theorem Near.same_cache (h : p.Near b c) : ∀ a ∈ p.cacheAspects, a.Same b c := fun a ha =>
  h.same (p.cacheAspects_subset ha) fun he => by
    subst he
    revert ha
    cases p <;> decide +kernel

theorem Near.afterServices (h : p.Near b c) : p.afterServices b = p.afterServices c := by
  have setup : .caches "apt" ∈ p.stageAspects .preSetup :=
    List.mem_append_left _ (List.mem_append_right _ (List.mem_cons_of_mem _ List.mem_cons_self))
  have caches : b.caches "apt" = c.caches "apt" := h.same (mem_aspects setup) (by decide)
  have addons : ∀ hook, runAddons b hook = runAddons c hook := h.addons
  simp only [Profile.afterServices, support_fix_eq h.outside, caches, addons]

/-- Only one stage reads the services. -/
theorem Near.run (h : p.Near b c) {stage : Stage} (hs : stage ≠ .preSetup) :
    p.run b stage = p.run c stage := by
  have alone : .texts "services" ∉ p.stageAspects stage := by
    revert hs
    cases p <;> cases stage <;> decide +kernel
  exact run_congr h.outside fun a ha => h.same (mem_aspects ha) fun he => alone (he ▸ ha)

theorem Near.onExit (h : p.Near b c) : p.onExit b = p.onExit c :=
  onExit_congr h.outside h.same_cache

theorem Near.flatMap_nodes (h : p.Near b c) {stages : List Stage} (hs : .preSetup ∉ stages) :
    stages.flatMap (p.nodes b) = stages.flatMap (p.nodes c) := by
  have same : ∀ stage ∈ stages, p.nodes b stage = p.nodes c stage := fun stage hm =>
    congrArg alone (h.run fun he => hs (he ▸ hm))
  rw [List.flatMap_def, List.flatMap_def, List.map_congr_left same]

theorem exists_services (h : Writes (p.run b .preSetup) () (p.nodes b .preSetup) js) :
    ∃ names, b.textsOf "services" = .ok names ∧
      p.nodes b .preSetup = serviceNodes names ++ alone (p.afterServices b) ∧
      ∃ ls, Writes (p.afterServices b) () (alone (p.afterServices b)) ls := by
  have start (names : List String) : Steady AnyNodes Unstructural (startServices names) :=
    steady_startServices names
  rw [run_preSetup] at h
  obtain ⟨_, _, _, -, hr, en⟩ := Steady.of_bind (Steady.note (P := AnyNodes) (.running .preSetup))
    (fun _ => .bind (.read _) fun names => .bind (start names) fun _ => steady_afterServices) h
  obtain ⟨names, hs, hw⟩ := hr.of_read_bind
  obtain ⟨_, _, ls, -, ha, es⟩ := Steady.of_bind (start names) (fun _ => steady_afterServices) hw
  refine ⟨names, hs, ?_, ls, ha⟩
  rw [en, es, (writes_note _).alone_eq, (writes_startServices names).alone_eq, List.nil_append]

theorem writes_preSetup (hs : b.textsOf "services" = .ok names)
    (ha : Writes (p.afterServices b) () (alone (p.afterServices b)) js) :
    Writes (p.run b .preSetup) () (serviceNodes names ++ alone (p.afterServices b))
      (.running .preSetup :: js) := by
  rw [run_preSetup, hs]
  exact (writes_note _).bind ((Writes.pure names).bind ((writes_startServices names).bind ha))

end Profile

/-- The first build looks like the second with more nodes at one place of its body. -/
def Compiled.Inserts (more : List Node) (c d : Compiled) : Prop :=
  ∃ before after, c.body = before ++ (more ++ after) ∧
    d.seen = { c.seen with body := before ++ after }

namespace Compiler

variable {r s : Resolution} {co : Option Entries} {c d : Compiled}

theorem packagedText_of_seen (h : c.seen = d.seen) : packagedText c = packagedText d := by
  have he := assemble_congr h Template.packaged
  rw [assemble_packaged, assemble_packaged] at he
  exact Except.ok.inj he

theorem packagedText_ne {more : List Node} (h : c.Inserts more d)
    (hm : 1 < (statements 0 more).length) : packagedText c ≠ packagedText d := by
  obtain ⟨before, after, hc, hs⟩ := h
  have hd : d.body = before ++ after := congrArg Compiled.Seen.body hs
  have hf : d.finish = c.finish := congrArg Compiled.Seen.finish hs
  intro he
  have cons (s t : String) (ls : List String) :
      Text.joinLines (s :: t :: ls) = s ++ "\n" ++ Text.joinLines (t :: ls) :=
    Text.joinLines_cons (List.cons_ne_nil t ls) s
  have hook : finishText d = finishText c := by rw [finishText, finishText, hf]
  rw [packagedText, packagedText, hook, cons, cons, cons, cons, String.append_right_inj,
    String.append_assoc, String.append_assoc, String.append_left_inj, Script.render_eq,
    Script.render_eq, hc, hd, statements_append, statements_append, statements_append] at he
  exact Text.joinLines_insert_ne hm he

theorem seen_of_inserts (h : c.Inserts (serviceNodes []) d) : d.seen = c.seen := by
  obtain ⟨before, after, hc, hs⟩ := h
  rw [serviceNodes_nil, List.nil_append] at hc
  rw [hs, ← hc]
  rfl

theorem packagedText_eq_iff {names : List String} (h : c.Inserts (serviceNodes names) d) :
    packagedText c = packagedText d ↔ names = [] := by
  constructor
  · intro he
    refine Decidable.of_not_not fun hn => ?_
    exact packagedText_ne h (one_lt_length_statements hn 0) he
  · rintro rfl
    exact (packagedText_of_seen (seen_of_inserts h)).symm

theorem unencodable_of_inserts {more : List Node} {options : Options} (h : c.Inserts more d)
    (hu : Unencodable options d) : Unencodable options c := by
  obtain ⟨before, after, hc, hs⟩ := h
  have hd : d.body = before ++ after := congrArg Compiled.Seen.body hs
  rw [Unencodable, hd, shownTexts_append, List.any_append, Bool.or_eq_true] at hu
  rw [Unencodable, hc, shownTexts_append, shownTexts_append, List.any_append, List.any_append]
  refine ⟨hu.1, ?_⟩
  rcases hu.2 with front | back
  · rw [front, Bool.true_or]
  · rw [back, Bool.or_true, Bool.or_true]

theorem outcome_eq_iff {names : List String} (h : c.Inserts (serviceNodes names) d)
    {options : Options} :
    outcome options Template.packaged c = outcome options Template.packaged d ↔
      names = [] ∨ Unencodable options d := by
  rw [outcome_packaged, outcome_packaged]
  by_cases hu : Unencodable options d
  · rw [if_pos hu, if_pos (unencodable_of_inserts h hu)]
    exact ⟨fun _ => .inr hu, fun _ => rfl⟩
  rw [if_neg hu, or_iff_left hu, ← packagedText_eq_iff h]
  by_cases hc : Unencodable options c
  · rw [if_pos hc]
    refine ⟨nofun, fun same => ?_⟩
    obtain rfl := (packagedText_eq_iff h).mp same
    have body : c.body = d.body := congrArg Compiled.Seen.body (seen_of_inserts h).symm
    exact absurd (by rw [Unencodable, ← body]; exact hc) hu
  · rw [if_neg hc, Except.ok.injEq]

theorem flatMap_stages (nodes : Stage → List Node) :
    Stage.all.flatMap nodes = [.configure, .checkout].flatMap nodes ++
      (nodes .preSetup ++ (Stage.all.drop 3).flatMap nodes) := by
  have hs : Stage.all.flatMap nodes =
      ([Stage.configure, .checkout] ++ .preSetup :: Stage.all.drop 3).flatMap nodes :=
    congrArg (List.flatMap nodes) (by decide)
  rw [hs, List.flatMap_append]
  exact congrArg (HAppend.hAppend _) List.flatMap_cons

/-- A completed build, and one that is near to it and starts no services, have the same scripts but
for the services that are started. -/
theorem Completed.exists_cut (h : Completed r co c)
    (near : c.profile.Near c.build (buildFor c.profile s co)) (ht : s.status = r.status)
    (hs : (buildFor c.profile s co).textsOf "services" = .ok []) :
    ∃ names before after, c.build.textsOf "services" = .ok names ∧
      c.body = before ++ (serviceNodes names ++ after) ∧
      (composed c.profile s co).1 = .ok (before ++ after, c.finish) := by
  obtain ⟨js, hw⟩ := h.stages .preSetup
  obtain ⟨names, hn, setup, ls, ha⟩ := Profile.exists_services hw
  rw [near.afterServices] at ha
  have bare := Profile.writes_preSetup hs ha
  have stages (stage : Stage) : ∃ js, Writes (c.profile.run (buildFor c.profile s co) stage) ()
      (c.profile.nodes (buildFor c.profile s co) stage) js := by
    by_cases he : stage = .preSetup
    · subst he
      rw [Profile.nodes, bare.alone_eq]
      exact ⟨_, bare⟩
    · rw [Profile.nodes, ← near.run he]
      exact h.stages stage
  have exit := h.exit
  rw [near.onExit] at exit
  refine ⟨names, r.status.nodes ++ [.configure, .checkout].flatMap (c.profile.nodes c.build),
    alone (c.profile.afterServices c.build) ++
      (Stage.all.drop 3).flatMap (c.profile.nodes c.build), hn, ?_, ?_⟩
  · rw [h.body, flatMap_stages, setup, List.append_assoc, List.append_assoc]
  · rw [composed_of_writes (ht ▸ h.status) stages exit, h.finish, near.onExit, ht, flatMap_stages,
      near.flatMap_nodes (by decide), near.flatMap_nodes (by decide), near.afterServices,
      Profile.nodes, bare.alone_eq, serviceNodes_nil, List.nil_append, List.append_assoc]

theorem textsOf_services_bare (payload : Payload) (status : Status) (co : Option Entries)
    (p : Profile) : (buildFor p ⟨payload.bare, status⟩ co).textsOf "services" = .ok [] := by
  have given : Entries.given payload.bare.config "services" = [] := Entries.given_erase_self _ _
  have none : Entries.get? (Setting.overlay p.defaults payload.bare.config) (.text "services") =
      none := by
    rw [Entries.get?_overlay, given]
    exact p.get?_defaults_of_ne (by decide) (by decide) (by decide)
  have null : (buildFor p ⟨payload.bare, status⟩ co).setting "services" = .ok .null := by
    change Except.ok ((Entries.get? _ _).getD .null) = _
    rw [none]
    rfl
  rw [Build.textsOf, null]
  rfl

section Payload

variable {payload : Payload} (hp : payload.paranoid = true) (status : Status) (co : Option Entries)
include hp

theorem agree_without_addons (p : Profile) :
    p.Agree (buildFor p ⟨payload, status⟩ co) (buildFor p ⟨payload.without "addons", status⟩ co) where
  toNear := Profile.near_of_given (r := ⟨payload, status⟩) (s := ⟨payload.without "addons", status⟩)
    rfl co fun name _ _ ha => (payload.given_without fun he => by
      cases hp.symm.trans (ha he)).symm
  services := Profile.setting_of_given (payload.given_without (by decide)).symm

theorem alike_without_addons :
    Alike (build ⟨payload, status⟩ co) (build ⟨payload.without "addons", status⟩ co) :=
  build_congr (r := ⟨payload, status⟩) (s := ⟨payload.without "addons", status⟩)
    (payload.get_without (by decide)).symm rfl rfl fun p _ _ ha =>
      (agree_without_addons hp status co p).same ha

theorem near_bare (p : Profile) :
    p.Near (buildFor p ⟨payload, status⟩ co) (buildFor p ⟨payload.bare, status⟩ co) :=
  Profile.near_of_given (r := ⟨payload, status⟩) (s := ⟨payload.bare, status⟩) rfl co
    fun name _ hs ha => (payload.given_bare hs fun he => by
      cases hp.symm.trans (ha he)).symm

/-- A paranoid build is that of the payload without services and addons, but for the services that it
starts. One that is stopped for its status starts none. -/
theorem exists_bare (h : (build ⟨payload, status⟩ co).1 = .ok c) :
    ∃ d names, (build ⟨payload.bare, status⟩ co).1 = .ok d ∧ c.Inserts (serviceNodes names) d ∧
      if c.finish.isSome then c.build.textsOf "services" = .ok names else names = [] := by
  obtain ⟨p, scripts, hl, -, rfl⟩ := exists_composed h
  have near := near_bare hp status co p
  have hb : Registry.standard.get (Entries.get payload.bare.config "language") = .ok p := by
    rw [payload.get_bare (by decide) (by decide)]
    exact hl
  have slug := Profile.cacheSlug_eq_of_same fun a ha => near.same_cache a (List.mem_append_right _ ha)
  have seen (body : Script) := congrArg (Compiled.Seen.mk p status body scripts.2) slug.symm
  rcases completed_or_stopped h with completed | ⟨hs, body, hf⟩
  · obtain ⟨names, before, after, hn, body, hd⟩ :=
      completed.exists_cut near rfl (textsOf_services_bare payload status co p)
    have hf : scripts.2.isSome := Option.isSome_of_eq_some completed.finish
    exact ⟨_, names, build_of_composed (r := ⟨payload.bare, status⟩) hb hd,
      ⟨before, after, body, seen _⟩, by rw [if_pos hf]; exact hn⟩
  · dsimp only at body hf
    have hd := composed_of_stopped (p := p) (r := ⟨payload.bare, status⟩) hs co
    rw [← hf] at hd
    exact ⟨_, [], build_of_composed (r := ⟨payload.bare, status⟩) hb hd, ⟨[], _, body, seen _⟩,
      by rw [hf]; rfl⟩

theorem exists_bare_payload (h : (buildPayload payload co).1 = .ok c) :
    ∃ d names, (buildPayload payload.bare co).1 = .ok d ∧ c.Inserts (serviceNodes names) d ∧
      (if c.finish.isSome then c.build.textsOf "services" = .ok names else names = []) ∧
      ∀ options, (compilePayload payload options co Template.packaged).1 =
        (compilePayload payload.bare options co Template.packaged).1 ↔
          names = [] ∨ Unencodable options d := by
  obtain ⟨status, hs⟩ : ∃ status, (Status.ofConfig payload.config).1 = status := ⟨_, rfl⟩
  have hr := buildPayload_fst_of_status hs co
  have hb := buildPayload_fst_of_status (payload.ofConfig_bare ▸ hs) co
  obtain ⟨d, names, hd, more, hn⟩ := exists_bare hp status co (hr ▸ h)
  rw [← hb] at hd
  refine ⟨d, names, hd, more, hn, fun options => ?_⟩
  rw [buildPayload_fst] at h hd
  rw [compilePayload_fst, compilePayload_fst, compile_fst h, compile_fst hd]
  exact outcome_eq_iff more

/-- The addons of a paranoid build do not count. Its services are started by all the same: where the
build is completed, the compiled text is that without services and addons only if there are none.
Where the tree cannot be noted even without them, neither compile has a text. -/
theorem paranoid_builds_start_services :
    (Alike (buildPayload payload co) (buildPayload (payload.without "addons") co) ∧
      ∀ options templates, compilePayload payload options co templates =
        compilePayload (payload.without "addons") options co templates) ∧
    ∀ c, (buildPayload payload co).1 = .ok c → ∃ d names,
      (buildPayload payload.bare co).1 = .ok d ∧ c.Inserts (serviceNodes names) d ∧
      (if c.finish.isSome then c.build.textsOf "services" = .ok names else names = []) ∧
      ∀ options, (compilePayload payload options co Template.packaged).1 =
        (compilePayload payload.bare options co Template.packaged).1 ↔
          names = [] ∨ Unencodable options d := by
  have status : Status.ofConfig payload.config = Status.ofConfig (payload.without "addons").config :=
    (payload.ofConfig_without (by decide)).symm
  have alike := payload_congr status fun status => alike_without_addons hp status co
  exact ⟨alike, fun c h => exists_bare_payload hp co h⟩

end Payload

def servedSpec : Payload where
  paranoid := true
  config := .ofList [
    (.text "language", .text "haskell"), (.text "services", .text "redis"),
    (.text "addons", .mapping [(.text "hosts", .text "build.local")])]

theorem exists_served : ∃ c, (buildPayload servedSpec none).1 = .ok c ∧ c.finish.isSome ∧
    c.build.textsOf "services" = .ok ["redis"] := by
  have hs : (Status.ofConfig servedSpec.config).1 = .configured := rfl
  have hb := buildPayload_fst_of_status hs none
  obtain ⟨c, hc, hp⟩ := exists_of_any (P := fun c => c.profile = .haskell && c.finish.isSome)
    (show (build ⟨servedSpec, .configured⟩ none).1.toOption.any _ = true by decide +kernel)
  rw [Bool.and_eq_true, decide_eq_true_iff] at hp
  have build : c.build = buildFor .haskell ⟨servedSpec, .configured⟩ none :=
    hp.1 ▸ (completed_of_finish hc hp.2).build
  exact ⟨c, hb.trans hc, hp.2, by rw [build]; rfl⟩

theorem paranoid_builds_start_services_redis :
    ∃ c d, (buildPayload servedSpec none).1 = .ok c ∧
      (buildPayload servedSpec.bare none).1 = .ok d ∧ c.Inserts (serviceNodes ["redis"]) d := by
  obtain ⟨c, hc, hf, hs⟩ := exists_served
  obtain ⟨d, names, hd, more, hn, -⟩ := (paranoid_builds_start_services rfl none).2 c hc
  rw [if_pos hf, hs] at hn
  cases hn
  exact ⟨c, d, hc, hd, more⟩

/-- The text of a paranoid build is not that without its services and addons. -/
theorem paranoid_service_started : ∃ text other,
    (compilePayload servedSpec ⟨none, false⟩ none Template.packaged).1 = .ok text ∧
      (compilePayload servedSpec.bare ⟨none, false⟩ none Template.packaged).1 = .ok other ∧
      text ≠ other := by
  obtain ⟨c, hc, hf, hs⟩ := exists_served
  obtain ⟨d, names, hd, more, hn, same⟩ := exists_bare_payload rfl none hc
  rw [if_pos hf, hs] at hn
  cases hn
  have quiet : Options.logTree ⟨none, false⟩ = false := rfl
  have ht := compilePayload_of_quiet hc quiet
  have ho := compilePayload_of_quiet hd quiet
  refine ⟨_, _, ht, ho, fun he => ?_⟩
  rcases (same ⟨none, false⟩).mp (by rw [ht, ho, he]) with none | garbled
  · cases none
  · exact not_unencodable quiet d garbled

end Compiler

end BuildScript

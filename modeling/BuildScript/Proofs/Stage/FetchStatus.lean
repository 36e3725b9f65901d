import BuildScript.Proofs.Stage.Seen

/-! # The effect of the fetch status

No stage reads the entry of a spec that holds its fetch status. The status decides before the first
stage whether the build goes on as without the entry, goes on after a warning, or is stopped.
-/

namespace BuildScript

open Shell Drafting

namespace Payload

def withResult (p : Payload) (v : Setting) : Payload :=
  { p with config := Entries.put p.config (.text resultKey) v }

def withoutResult (p : Payload) : Payload :=
  { p with config := Entries.erase p.config resultKey }

theorem given_withResult (p : Payload) (v : Setting) {name : String} (hn : name ≠ resultKey) :
    Entries.given (p.withResult v).config name = Entries.given p.withoutResult.config name :=
  (Entries.given_put_of_ne hn p.config v).trans (Entries.given_erase_of_ne hn p.config).symm

theorem language_withResult (p : Payload) (v : Setting) :
    Entries.get (p.withResult v).config "language" = Entries.get p.config "language" :=
  Entries.get_eq_of_given (Entries.given_put_of_ne (by decide) p.config v)

theorem language_withoutResult (p : Payload) :
    Entries.get p.withoutResult.config "language" = Entries.get p.config "language" :=
  Entries.get_eq_of_given (Entries.given_erase_of_ne (by decide) p.config)

end Payload

namespace Status

theorem ofConfig_withoutResult (p : Payload) :
    ofConfig p.withoutResult.config = (.configured, []) := by
  rw [ofConfig, Payload.withoutResult, Entries.get, Entries.get?_erase_self]
  rfl

theorem eq_of_ofName? {s : String} {status : Status} (h : ofName? s = some status) :
    s = status.name := by
  have hn := List.find?_some h
  exact (beq_iff_eq.mp hn).symm

theorem ofConfig_of_name (p : Payload) (status : Status) :
    ofConfig (p.withResult (.text status.name)).config = (status, []) := by
  rw [ofConfig, Payload.withResult, Entries.get, Entries.get?_put_text_self]
  cases status <;> rfl

theorem ofConfig_of_other (p : Payload) {v : Setting} (hn : v ≠ .text Status.notFound.name)
    (hs : v ≠ .text Status.serverError.name) :
    ∃ notices, ofConfig (p.withResult v).config = (.configured, notices) ∧
      (v = .null ∨ v = .text Status.configured.name → notices = []) ∧
      (v ≠ .null → v ≠ .text Status.configured.name → notices = [.unknownResult v]) := by
  rw [ofConfig, Payload.withResult, Entries.get, Entries.get?_put_text_self, Option.getD_some]
  split
  · exact ⟨_, rfl, fun _ => rfl, fun h => absurd rfl h⟩
  · next s =>
    cases ho : ofName? s with
    | none =>
      refine ⟨_, rfl, ?_, fun _ _ => rfl⟩
      rintro (he | he) <;> cases he
      cases ho
    | some status =>
      have he := eq_of_ofName? ho
      subst he
      cases status with
      | configured => exact ⟨_, rfl, fun _ => rfl, fun _ h => absurd rfl h⟩
      | notFound => exact absurd rfl hn
      | serverError => exact absurd rfl hs
  · next h₁ h₂ =>
    refine ⟨_, rfl, ?_, fun _ _ => rfl⟩
    rintro (he | he)
    · exact absurd he h₁
    · exact absurd he (h₂ _)

end Status

namespace Compiler

/-- The warning of a missing spec stands before the body and changes nothing else. -/
theorem compose_notFound (p : Profile) (b : Build) (j k : Journal) :
    (compose p b (p.hook b (p.support b)) .notFound ⟨{}, j⟩).1 =
      (compose p b (p.hook b (p.support b)) .configured ⟨{}, k⟩).1.map fun scripts =>
        (Status.notFound.nodes ++ scripts.1, scripts.2) := by
  have hn : Writes (Pipeline.checkConfig .notFound) true Status.notFound.nodes [.specMissing] :=
    Pipeline.writes_checkConfig .notFound
  have hc : Writes (Pipeline.checkConfig .configured) true [] [] := Writes.pure true
  rcases Steady.forM_writes_or_fails (l := Stage.all) fun stage _ => p.steady_run b stage with
    ⟨_, ls, hw⟩ | ⟨f, ls, hf, _⟩
  · have hn := Pipeline.run_of_writes hn hw
    have hc := Pipeline.run_of_writes hc hw
    cases Profile.steady_onExit (P := AnyNodes) (F := Unstructural) p b with
    | writes he =>
      rw [compose_of_completed hn he, compose_of_completed hc he, List.nil_append, Except.map]
    | fails he => rw [compose_of_exit_fails hn he, compose_of_exit_fails hc he, Except.map]
  · obtain ⟨_, hn⟩ := compose_of_fails (p := p) (Pipeline.run_of_fails hn hf) j
    obtain ⟨_, hc⟩ := compose_of_fails (p := p) (Pipeline.run_of_fails hc hf) k
    rw [hn, hc, Except.map]

theorem agree_withResult (p : Payload) (v : Setting) (profile : Profile) (status : Status)
    (co : Option Entries) :
    profile.Agree (buildFor profile ⟨p.withResult v, status⟩ co)
      (buildFor profile ⟨p.withoutResult, status⟩ co) := by
  have hk : resultKey ∉ sharedKeys ++ profile.ownKeys := by cases profile <;> decide
  exact Profile.agree_of_given (r := ⟨p.withResult v, status⟩) (s := ⟨p.withoutResult, status⟩) rfl
    co fun name hn => p.given_withResult v fun he => hk (he ▸ hn)

variable {p : Payload} {profile : Profile}

theorem build_withResult (co : Option Entries) (v : Setting) (status : Status) :
    Alike (build ⟨p.withResult v, status⟩ co) (build ⟨p.withoutResult, status⟩ co) :=
  build_congr ((p.language_withResult v).trans p.language_withoutResult.symm) rfl rfl
    fun profile _ _ ha => (agree_withResult p v profile status co).same ha

theorem build_notFound
    (hl : Registry.standard.get (Entries.get p.config "language") = .ok profile)
    (co : Option Entries) :
    (build ⟨p, .notFound⟩ co).1.map Compiled.seen =
      (build ⟨p, .configured⟩ co).1.map fun c =>
        { c.seen with status := .notFound, body := Status.notFound.nodes ++ c.body } := by
  have hc : (composed profile ⟨p, .notFound⟩ co).1 =
      (composed profile ⟨p, .configured⟩ co).1.map fun scripts =>
        (Status.notFound.nodes ++ scripts.1, scripts.2) := compose_notFound ..
  rw [seen_build (r := ⟨p, .notFound⟩) hl, build_of_language (r := ⟨p, .configured⟩) hl, hc]
  cases (composed profile ⟨p, .configured⟩ co).1 <;> rfl

theorem build_serverError
    (hl : Registry.standard.get (Entries.get p.config "language") = .ok profile)
    (co : Option Entries) :
    ∃ c, build ⟨p, .serverError⟩ co =
        (.ok c, [.compiling profile.name .serverError, .specUnreachable, .finished 2]) ∧
      c.status = .serverError ∧ c.body = Status.serverError.nodes ∧ c.finish = none := by
  have hs : Writes (Pipeline.checkConfig .serverError) false Status.serverError.nodes
      [.specUnreachable] := Pipeline.writes_checkConfig .serverError
  have hc : composed profile ⟨p, .serverError⟩ co = _ :=
    compose_of_stopped (Pipeline.run_of_stopped hs) _
  rw [build_of_language (r := ⟨p, .serverError⟩) hl, hc]
  exact ⟨_, rfl, rfl, rfl, rfl⟩

/-- A spec that was not found gives the build without the entry after a warning, one that could not
be fetched ends the build before any stage, and every other entry counts as none. -/
theorem fetch_status_effect
    (hl : Registry.standard.get (Entries.get p.config "language") = .ok profile)
    (co : Option Entries) :
    ((buildPayload (p.withResult (.text "not_found")) co).1.map Compiled.seen =
      (buildPayload p.withoutResult co).1.map fun c =>
        { c.seen with status := .notFound, body := Status.notFound.nodes ++ c.body }) ∧
    (∃ c, buildPayload (p.withResult (.text "server_error")) co =
        (.ok c, [.compiling profile.name .serverError, .specUnreachable, .finished 2]) ∧
      c.status = .serverError ∧ c.body = Status.serverError.nodes ∧ c.finish = none) ∧
    ∀ v, v ≠ .text "not_found" → v ≠ .text "server_error" → ∃ notices,
      Status.ofConfig (p.withResult v).config = (.configured, notices) ∧
      (buildPayload (p.withResult v) co).1.map Compiled.seen =
        (buildPayload p.withoutResult co).1.map Compiled.seen ∧
      (buildPayload (p.withResult v) co).2 = notices ++ (buildPayload p.withoutResult co).2 ∧
      (v = .null ∨ v = .text "configured" → notices = []) ∧
      (v ≠ .null → v ≠ .text "configured" →
        notices = [.unknownResult v] ∧ (Notice.unknownResult v).level = .warning) := by
  have language (v : Setting) :
      Registry.standard.get (Entries.get (p.withResult v).config "language") = .ok profile := by
    rw [p.language_withResult v, hl]
  have without : Registry.standard.get (Entries.get p.withoutResult.config "language") =
      .ok profile := by
    rw [p.language_withoutResult, hl]
  have absent := buildPayload_of_status (Status.ofConfig_withoutResult p) co
  refine ⟨?notFound, ?serverError, ?other⟩
  case notFound =>
    have he : Status.ofConfig (p.withResult (.text "not_found")).config = (.notFound, []) :=
      Status.ofConfig_of_name p .notFound
    rw [buildPayload_of_status he, absent]
    dsimp only
    exact (build_withResult co _ .notFound).1.trans (build_notFound without co)
  case serverError =>
    have he : Status.ofConfig (p.withResult (.text "server_error")).config = (.serverError, []) :=
      Status.ofConfig_of_name p .serverError
    obtain ⟨c, hc, seen⟩ := build_serverError (language (.text "server_error")) co
    exact ⟨c, by rw [buildPayload_of_status he, hc, List.nil_append], seen⟩
  case other =>
    intro v hn hs
    obtain ⟨notices, hv, silent, noted⟩ := Status.ofConfig_of_other p hn hs
    obtain ⟨seen, journal⟩ := build_withResult co v .configured
    refine ⟨notices, hv, ?_, ?_, silent, fun h₁ h₂ => ⟨noted h₁ h₂, rfl⟩⟩
    · rw [buildPayload_of_status hv, absent]
      dsimp only
      exact seen
    · rw [buildPayload_of_status hv, absent, List.nil_append, journal]

/-- A spec whose services cannot be read, so that its stages fail. -/
def unreadableSpec : Payload where
  config := .ofList [
    (.text "language", .text "haskell"), (.text "services", .int 3), (.text ".result", .bool true)]

theorem fetch_status_effect_unreadable :
    (∃ c, buildPayload (unreadableSpec.withResult (.text "server_error")) none =
        (.ok c, [.compiling "haskell" .serverError, .specUnreachable, .finished 2]) ∧
      c.body = Status.serverError.nodes) ∧
    (buildPayload (unreadableSpec.withResult (.int 1)) none).2 =
      .unknownResult (.int 1) :: (buildPayload unreadableSpec.withoutResult none).2 := by
  have hl : Registry.standard.get (Entries.get unreadableSpec.config "language") = .ok .haskell :=
    Registry.get_of_lookup (by decide +kernel)
  obtain ⟨-, ⟨c, hc, -, hb, -⟩, other⟩ := fetch_status_effect hl none
  obtain ⟨notices, -, -, journal, -, noted⟩ := other (.int 1) nofun nofun
  rw [(noted nofun nofun).1] at journal
  exact ⟨⟨c, hc, hb⟩, journal⟩

end Compiler

end BuildScript

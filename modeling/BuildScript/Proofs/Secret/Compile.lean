import BuildScript.Proofs.Secret.Hooks
import BuildScript.Proofs.Stage.Concatenation
import BuildScript.Proofs.Stage.Result

/-! # Compiles that differ in secrets

Payloads that differ in secrets only are compiled with the same journal, the dump of the tree
included, and to scripts that cannot be told apart: their pieces differ only where a secure command
is run or a secure variable is assigned.
-/

namespace BuildScript

open Shell Drafting

namespace Compiler

/-- Two outcomes of the stages of a profile: one fault, or scripts with the same veils. -/
inductive Veiled : Except Draft.Fault (Script × Option Script) →
    Except Draft.Fault (Script × Option Script) → Prop
  | failed (f : Draft.Fault) : Veiled (.error f) (.error f)
  | stopped {ns ms : Script} (h : veil ns = veil ms) : Veiled (.ok (ns, none)) (.ok (ms, none))
  | completed {ns ms es fs : Script} (h : veil ns = veil ms) (he : veil es = veil fs) :
    Veiled (.ok (ns, some es)) (.ok (ms, some fs))

/-- Two results of a build: one fault, or scripts that cannot be told apart. -/
inductive Matching : Except Fault Compiled → Except Fault Compiled → Prop
  | failed (f : Fault) : Matching (.error f) (.error f)
  | built {c d : Compiled} (profile : c.profile = d.profile) (status : c.status = d.status)
    (body : Indistinct c.body d.body) (finish : Option.Rel Indistinct c.finish d.finish) :
    Matching (.ok c) (.ok d)

theorem twin_stages {b c : Build} (h : b.Alike c) (p : Profile) :
    Twin (Stage.all.forM (Pipeline.runStage b (p.hook b (p.support b))))
      (Stage.all.forM (Pipeline.runStage c (p.hook c (p.support c)))) := by
  refine .forM (R := Eq) ?_ (List.forall₂_same.mpr fun _ _ => rfl)
  rintro stage _ rfl
  exact h.twin_run p stage

/-- On alike builds a profile composes scripts with the same veils and notes the same. -/
theorem compose_veiled {b c : Build} (h : b.Alike c) (p : Profile) (status : Status)
    (j : Journal) :
    ∃ x y d e, compose p b (p.hook b (p.support b)) status ⟨{}, j⟩ = (x, d) ∧
      compose p c (p.hook c (p.support c)) status ⟨{}, j⟩ = (y, e) ∧
      Veiled x y ∧ d.journal = e.journal := by
  have hc := Pipeline.writes_checkConfig status
  by_cases hs : status = .serverError
  · rw [decide_eq_false (not_not_intro hs)] at hc
    exact ⟨_, _, _, _, compose_of_stopped (Pipeline.run_of_stopped hc) j,
      compose_of_stopped (Pipeline.run_of_stopped hc) j, .stopped rfl, rfl⟩
  rw [decide_eq_true hs] at hc
  cases twin_stages h p with
  | fails hx hy =>
    obtain ⟨b', hb⟩ := compose_of_fails (p := p) (Pipeline.run_of_fails hc hx) j
    obtain ⟨c', hc⟩ := compose_of_fails (p := p) (Pipeline.run_of_fails hc hy) j
    exact ⟨_, _, _, _, hb, hc, .failed _, rfl⟩
  | @writes _ ns ms ls hx hy hv =>
    have hb := Pipeline.run_of_writes hc hx
    have hc := Pipeline.run_of_writes hc hy
    have hw : veil (status.nodes ++ ns) = veil (status.nodes ++ ms) := by
      rw [veil_append, veil_append, hv]
    have hl := length_eq_of_veil hw
    cases h.twin_onExit p with
    | fails hx hy =>
      refine ⟨_, _, _, _, compose_of_exit_fails hb hx j, compose_of_exit_fails hc hy j,
        .failed _, ?_⟩
      rw [hl]
    | writes hx hy hv =>
      refine ⟨_, _, _, _, compose_of_completed hb hx j, compose_of_completed hc hy j,
        .completed hw hv, ?_⟩
      rw [hl, length_eq_of_veil hv]

theorem Veiled.matching {x y : Except Draft.Fault (Script × Option Script)} (h : Veiled x y)
    (p : Profile) (b c : Build) (status : Status) :
    Matching ((x.map fun s => ⟨p, b, status, s.1, s.2⟩).mapError .draft)
      ((y.map fun s => ⟨p, c, status, s.1, s.2⟩).mapError .draft) := by
  cases h with
  | failed f => exact .failed (.draft f)
  | stopped h => exact .built rfl rfl (indistinct_of_veil h) .none
  | completed h he => exact .built rfl rfl (indistinct_of_veil h) (.some (indistinct_of_veil he))

/-! ## Results of whole compiles -/

theorem Matching.noted_eq {x y : Except Fault Compiled} (h : Matching x y) (options : Options) :
    noted options x = noted options y := by
  cases h with
  | failed => rfl
  | @built c d _ _ body _ =>
    have dump : (Outline.ofScript c.body).dump = (Outline.ofScript d.body).dump := by
      rw [Outline.dump, Outline.dump, body.redacted]
    rw [noted, noted, treeNotices, treeNotices, Outline.encoded?, Outline.encoded?, dump]

theorem buildFor_alike {r r' : Resolution} (h : r.payload.Alike r'.payload) (profile : Profile)
    (co : Option Entries) : (buildFor profile r co).Alike (buildFor profile r' co) := by
  refine h.build profile ?_
  cases co with
  | none => exact h.cacheOptions
  | some es => exact .refl es

theorem build_matching {r r' : Resolution} (h : r.payload.Alike r'.payload)
    (hs : r.status = r'.status) (co : Option Entries) :
    Matching (build r co).1 (build r' co).1 ∧ (build r co).2 = (build r' co).2 := by
  have hl : Entries.get r.payload.config "language" = Entries.get r'.payload.config "language" :=
    h.config.get_of_ne (by decide)
  cases hp : Registry.standard.get (Entries.get r.payload.config "language") with
  | error e =>
    have hq := hp
    rw [hl] at hq
    rw [build_of_unknown hp, build_of_unknown hq]
    exact ⟨.failed _, rfl⟩
  | ok profile =>
    have hq := hp
    rw [hl] at hq
    obtain ⟨x, y, d, e, hx, hy, hv, hj⟩ := compose_veiled (buildFor_alike h profile co) profile
      r.status [.compiling profile.name r.status]
    rw [build_of_language hp, build_of_language hq, composed, composed, ← hs, hx, hy]
    exact ⟨hv.matching profile _ _ r.status, hj⟩

/-- Payloads that differ in secrets only are compiled with the same journal and to scripts that
cannot be told apart. -/
theorem secrets_stay_hidden {p q : Payload} (h : p.Alike q) (options : Options)
    (co : Option Entries) (templates : Template.Renderer) :
    (compilePayload p options co templates).2 = (compilePayload q options co templates).2 ∧
      Matching (buildPayload p co).1 (buildPayload q co).1 := by
  have hs : Status.ofConfig p.config = Status.ofConfig q.config := by
    unfold Status.ofConfig
    rw [h.config.get_of_ne (by decide)]
  have ha : (Resolution.mk p (Status.ofConfig p.config).1).payload.Alike
      (Resolution.mk q (Status.ofConfig p.config).1).payload := h
  obtain ⟨hm, hj⟩ := build_matching ha rfl co
  rw [compilePayload_eq, compilePayload_eq, compile_snd, compile_snd, buildPayload_eq,
    buildPayload_eq, Resolution.ofPayload, Resolution.ofPayload, ← hs]
  dsimp only
  rw [hj, hm.noted_eq]
  exact ⟨rfl, hm⟩

def guardedPayload (value line url : String) : Payload where
  config := [
    (.text "language", .text "haskell"),
    (.text "cache", .mapping [(.text "directories", .list [.text "dist"])]),
    (.text "env", .list [.text "CI=1", .mapping [(.text "secure", .text line)]])]
  envVars := [{ name := "KEY", value := value }]
  cacheOptions := [(.text "url", .text url)]

theorem guardedPayload_alike {s t : String}
    (h : Environment.SameNames (.text s) (.text t)) (v w : String) {x y : String} (hx : x ≠ "")
    (hy : y ≠ "") : (guardedPayload v s x).Alike (guardedPayload w t y) where
  config := .there (by decide) (.there (by decide) (.here (.list (.cons (.refl _)
    (.cons (.secure (.here h rfl)) .nil))) rfl))
  envVars := .cons (.hidden _ _ _) .nil
  cacheOptions := .here ⟨bne_iff_ne.mpr hx, bne_iff_ne.mpr hy⟩ rfl
  paranoid := rfl
  skipResolvUpdates := rfl
  skipEtcHostsFix := rfl
  hosts := rfl
  repository := rfl
  job := rfl

theorem secrets_stay_hidden_guarded :
    (compilePayload (guardedPayload "a" "TOKEN=b PASS=c" "http://d") ⟨none, true⟩ none
        Template.packaged).2 =
      (compilePayload (guardedPayload "x" "TOKEN='y z' PASS=" "http://w") ⟨none, true⟩ none
        Template.packaged).2 ∧
      Matching (buildPayload (guardedPayload "a" "TOKEN=b PASS=c" "http://d") none).1
        (buildPayload (guardedPayload "x" "TOKEN='y z' PASS=" "http://w") none).1 :=
  have hn : Environment.SameNames (.text "TOKEN=b PASS=c") (.text "TOKEN='y z' PASS=") := by
    unfold Environment.SameNames
    decide +kernel
  secrets_stay_hidden (guardedPayload_alike hn "a" "x" (by decide) (by decide)) _ _ _

end Compiler

end BuildScript

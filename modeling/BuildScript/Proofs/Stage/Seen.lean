import BuildScript.Proofs.Stage.Footprint
import BuildScript.Proofs.Stage.Result

/-! # What can be seen of a build

A build shows its profile, its status, its scripts and its slug, and it leaves a journal. Resolved
payloads of one language and one status that agree where the profile reads show the same, so that
every compile of them has the same outcome.
-/

namespace BuildScript

open Shell

/-- What can be seen of a build, whatever else its spec holds. -/
structure Compiled.Seen where
  profile : Profile
  status : Status
  body : Script
  finish : Option Script
  slug : Except Setting.Misuse String

def Compiled.seen (c : Compiled) : Compiled.Seen where
  profile := c.profile
  status := c.status
  body := c.body
  finish := c.finish
  slug := c.profile.cacheSlug c.build

namespace Compiler

theorem seen_build {p : Profile} {r : Resolution}
    (hl : Registry.standard.get (Entries.get r.payload.config "language") = .ok p)
    (co : Option Entries) :
    (build r co).1.map Compiled.seen = ((composed p r co).1.map fun scripts =>
      (⟨p, r.status, scripts.1, scripts.2, p.cacheSlug (buildFor p r co)⟩ : Compiled.Seen)).mapError
        .draft := by
  rw [build_of_language hl]
  cases (composed p r co).1 <;> rfl

/-- Two builds look and note the same. -/
structure Alike (x y : Except Fault Compiled × Journal) : Prop where
  seen : x.1.map Compiled.seen = y.1.map Compiled.seen
  journal : x.2 = y.2

theorem Alike.after {x y : Except Fault Compiled × Journal} (h : Alike x y) (notices : Journal) :
    Alike (x.1, notices ++ x.2) (y.1, notices ++ y.2) :=
  ⟨h.seen, congrArg (notices ++ ·) h.journal⟩

theorem cases_of_seen {x y : Except Fault Compiled}
    (hs : x.map Compiled.seen = y.map Compiled.seen) :
    (∃ f, x = .error f ∧ y = .error f) ∨ ∃ c d, x = .ok c ∧ y = .ok d ∧ c.seen = d.seen := by
  cases x with
  | error f =>
    cases y with
    | error g => exact .inl ⟨f, rfl, congrArg _ (Except.error.inj hs).symm⟩
    | ok d => cases hs
  | ok c =>
    cases y with
    | error g => cases hs
    | ok d => exact .inr ⟨c, d, rfl, rfl, Except.ok.inj hs⟩

theorem Alike.cases {x y : Except Fault Compiled × Journal} (h : Alike x y) :
    (∃ f, x.1 = .error f ∧ y.1 = .error f) ∨ ∃ c d, x.1 = .ok c ∧ y.1 = .ok d ∧ c.seen = d.seen :=
  cases_of_seen h.seen

section Congr

variable {r s : Resolution} {co : Option Entries}

theorem seen_build_congr
    (hl : Entries.get r.payload.config "language" = Entries.get s.payload.config "language")
    (hs : r.status = s.status)
    (hc : ∀ p, Registry.standard.get (Entries.get r.payload.config "language") = .ok p →
      (composed p r co).1 = (composed p s co).1 ∧
        p.cacheSlug (buildFor p r co) = p.cacheSlug (buildFor p s co)) :
    (build r co).1.map Compiled.seen = (build s co).1.map Compiled.seen := by
  cases hr : Registry.standard.get (Entries.get r.payload.config "language") with
  | error e => rw [build_of_unknown hr, build_of_unknown (hl ▸ hr)]
  | ok p => rw [seen_build hr, seen_build (hl ▸ hr), (hc p hr).1, hs, (hc p hr).2]

theorem build_congr_of_composed
    (hl : Entries.get r.payload.config "language" = Entries.get s.payload.config "language")
    (hs : r.status = s.status)
    (hc : ∀ p, Registry.standard.get (Entries.get r.payload.config "language") = .ok p →
      composed p r co = composed p s co ∧
        p.cacheSlug (buildFor p r co) = p.cacheSlug (buildFor p s co)) :
    Alike (build r co) (build s co) := by
  refine ⟨seen_build_congr hl hs fun p hr => ⟨congrArg Prod.fst (hc p hr).1, (hc p hr).2⟩, ?_⟩
  cases hr : Registry.standard.get (Entries.get r.payload.config "language") with
  | error e => rw [build_of_unknown hr, build_of_unknown (hl ▸ hr)]
  | ok p => rw [build_of_language hr, build_of_language (hl ▸ hr), (hc p hr).1]

/-- Builds that are the same in all that the profile of their language reads look the same. -/
theorem build_congr
    (hl : Entries.get r.payload.config "language" = Entries.get s.payload.config "language")
    (hs : r.status = s.status) (hp : r.payload.withoutSpec = s.payload.withoutSpec)
    (ha : ∀ p, Registry.standard.get (Entries.get r.payload.config "language") = .ok p →
      ∀ a ∈ p.aspects, a.Same (buildFor p r co) (buildFor p s co)) :
    Alike (build r co) (build s co) := by
  refine build_congr_of_composed hl hs fun p hr => ?_
  have same := ha p hr
  have outside : (buildFor p r co).SameOutside (buildFor p s co) :=
    Profile.sameOutside_of_payload hp co
  have cached : ∀ a ∈ p.cacheAspects, a.Same (buildFor p r co) (buildFor p s co) := fun a ha =>
    same a (p.cacheAspects_subset ha)
  have compose := Profile.compose_congr
    (fun _ => Profile.run_congr outside fun a ha => same a (Profile.mem_aspects ha))
    (Profile.onExit_congr outside cached) s.status
  exact ⟨by rw [composed, composed, hs, compose],
    Profile.cacheSlug_eq_of_same fun a ha => cached a (List.mem_append_right _ ha)⟩

theorem assemble_congr {c d : Compiled} (h : c.seen = d.seen) (templates : Template.Renderer) :
    assemble c templates = assemble d templates := by
  have hb : c.body = d.body := congrArg Compiled.Seen.body h
  have hf : c.finish = d.finish := congrArg Compiled.Seen.finish h
  simp only [assemble, headerContext, finishText, hb, hf]

theorem outcome_congr {c d : Compiled} (h : c.seen = d.seen) (options : Options)
    (templates : Template.Renderer) : outcome options templates c = outcome options templates d := by
  have hb : c.body = d.body := congrArg Compiled.Seen.body h
  have hu : Unencodable options c ↔ Unencodable options d := by rw [Unencodable, Unencodable, hb]
  exact if_congr hu rfl (by rw [assemble_congr h])

theorem compile_fst_congr
    (h : (build r co).1.map Compiled.seen = (build s co).1.map Compiled.seen) (options : Options)
    (templates : Template.Renderer) :
    (compile r options co templates).1 = (compile s options co templates).1 := by
  rcases cases_of_seen h with ⟨f, hx, hy⟩ | ⟨c, d, hx, hy, hs⟩
  · rw [compile_fst_error hx, compile_fst_error hy]
  · rw [compile_fst hx, compile_fst hy, outcome_congr hs]

theorem compile_congr (h : Alike (build r co) (build s co)) (options : Options)
    (templates : Template.Renderer) :
    compile r options co templates = compile s options co templates := by
  have hj := h.journal
  refine Prod.ext ?_ ?_
  · exact compile_fst_congr h.seen options templates
  · rw [compile_snd, compile_snd, hj]
    rcases h.cases with ⟨f, hx, hy⟩ | ⟨c, d, hx, hy, hs⟩
    · rw [hx, hy]
    · have hb : c.body = d.body := congrArg Compiled.Seen.body hs
      rw [hx, hy, noted, noted, treeNotices, treeNotices, hb]

/-- Payloads with one status whose builds are alike cannot be told apart. -/
theorem payload_congr {p q : Payload} (hs : Status.ofConfig p.config = Status.ofConfig q.config)
    (h : ∀ status, Alike (build ⟨p, status⟩ co) (build ⟨q, status⟩ co)) :
    Alike (buildPayload p co) (buildPayload q co) ∧
      ∀ options templates,
        compilePayload p options co templates = compilePayload q options co templates := by
  obtain ⟨status, notices, hp⟩ : ∃ status notices, Status.ofConfig p.config = (status, notices) :=
    ⟨_, _, rfl⟩
  have hq : Status.ofConfig q.config = (status, notices) := hs ▸ hp
  refine ⟨?_, fun options templates => ?_⟩
  · rw [buildPayload_of_status hp, buildPayload_of_status hq]
    exact (h status).after notices
  · rw [compilePayload_of_status hp, compilePayload_of_status hq, compile_congr (h status)]

end Congr

end Compiler

end BuildScript

import BuildScript.Capability.DirectoryCache
import BuildScript.Profile.Basic
import BuildScript.Proofs.Environment.Reencryption

/-! # Payloads that differ in secrets

Two payloads are alike when they differ only in repository variables that are not public, in
encrypted lines of the environment and in the address of the directory cache. A profile then sees
two builds that read the same but for those three.
-/

namespace BuildScript

inductive RepositoryVariable.Alike : RepositoryVariable → RepositoryVariable → Prop
  | same (v : RepositoryVariable) : Alike v v
  | hidden (name v w : String) : Alike ⟨name, v, false⟩ ⟨name, w, false⟩

/-- Cache options that differ at most in an address that both of them hold. -/
abbrev CacheAlike : Entries → Entries → Prop :=
  Entries.SameBut "url" fun s t => s.isSet = true ∧ t.isSet = true

/-- Two payloads that differ in secrets only. -/
structure Payload.Alike (p q : Payload) : Prop where
  config : Entries.SameBut "env" Environment.Reencrypted p.config q.config
  envVars : List.Forall₂ RepositoryVariable.Alike p.envVars q.envVars
  cacheOptions : CacheAlike p.cacheOptions q.cacheOptions
  paranoid : p.paranoid = q.paranoid
  skipResolvUpdates : p.skipResolvUpdates = q.skipResolvUpdates
  skipEtcHostsFix : p.skipEtcHostsFix = q.skipEtcHostsFix
  hosts : p.hosts = q.hosts
  repository : p.repository = q.repository
  job : p.job = q.job

namespace Environment

structure Group.Alike (g h : Group) : Prop where
  source : g.source = h.source
  members : List.Forall₂ Variable.Alike g.members h.members

theorem Group.Alike.isAnnounced {g h : Group} (hg : g.Alike h) :
    g.isAnnounced = h.isAnnounced := by
  obtain ⟨source, members⟩ := g
  obtain ⟨source', members'⟩ := h
  cases hg.members <;> rfl

theorem any_isAnnounced_congr {gs hs : List Group} (h : List.Forall₂ Group.Alike gs hs) :
    gs.any Group.isAnnounced = hs.any Group.isAnnounced := by
  induction h with
  | nil => rfl
  | cons hg _ ih => rw [List.any_cons, List.any_cons, hg.isAnnounced, ih]

theorem ofRepository_alike {v w : RepositoryVariable} (h : v.Alike w) :
    (ofRepository v).Alike (ofRepository w) := by
  cases h with
  | same => exact .same _
  | hidden name v w => exact .secure name v w true

end Environment

open Capability

/-- Two builds that are read alike in everything but their secrets. -/
structure Build.Alike (b c : Build) : Prop where
  setting : ∀ name, name ≠ "env" → b.setting name = c.setting name
  required : ∀ name, name ≠ "env" → b.config.required name = c.config.required name
  groups : ∃ gs hs, Environment.groups b = .ok gs ∧ Environment.groups c = .ok hs ∧
    List.Forall₂ Environment.Group.Alike gs hs
  hasCacheUrl : hasCacheUrl b.cacheOptions = hasCacheUrl c.cacheOptions
  cacheCommand : Capability.hasCacheUrl b.cacheOptions = false → ∀ action slug directories,
    cacheCommand b.cacheOptions action slug directories =
      cacheCommand c.cacheOptions action slug directories
  paranoid : b.payload.paranoid = c.payload.paranoid
  skipResolvUpdates : b.payload.skipResolvUpdates = c.payload.skipResolvUpdates
  skipEtcHostsFix : b.payload.skipEtcHostsFix = c.payload.skipEtcHostsFix
  hosts : b.payload.hosts = c.payload.hosts
  repository : b.payload.repository = c.payload.repository
  job : b.payload.job = c.payload.job

namespace CacheAlike

variable {es fs : Entries}

theorem hasCacheUrl (h : CacheAlike es fs) :
    Capability.hasCacheUrl es = Capability.hasCacheUrl fs := by
  unfold Capability.hasCacheUrl
  rcases h.get_self with he | ⟨hs, ht⟩
  · rw [he]
  · rw [hs, ht]

theorem cacheCommand (h : CacheAlike es fs) (hu : Capability.hasCacheUrl es = false)
    (action : CacheAction) (slug : String) (directories : List String) :
    Capability.cacheCommand es action slug directories =
      Capability.cacheCommand fs action slug directories := by
  unfold Capability.cacheCommand
  rcases h.get_self with he | ⟨hs, _⟩
  · rw [he]
  · cases hu.symm.trans hs

end CacheAlike

theorem Profile.get?_defaults_env (p : Profile) :
    Entries.get? p.defaults (.text "env") = none := by
  cases p <;> rfl

theorem Payload.Alike.build {p q : Payload} (h : p.Alike q) (profile : Profile) {es fs : Entries}
    (hc : CacheAlike es fs) :
    (⟨profile.mergedConfig p.config, p, es⟩ : Build).Alike
      ⟨profile.mergedConfig q.config, q, fs⟩ := by
  have hm := h.config.overlay profile.get?_defaults_env
  constructor
  case setting =>
    intro name hn
    exact congrArg Except.ok (hm.get_of_ne hn)
  case required =>
    intro name hn
    simp only [Profile.mergedConfig, Setting.required]
    rw [hm.get?_of_ne fun hk => hn (Scalar.text.inj hk)]
  case groups =>
    refine ⟨_, _, rfl, rfl, .cons ⟨rfl, ?_⟩ (.cons ⟨rfl, ?_⟩ .nil)⟩
    · exact List.rel_map (fun _ _ hv => Environment.ofRepository_alike hv) h.envVars
    · refine Environment.Reencrypted.variables ?_
      rcases hm.get_self with he | hr
      · rw [he]
        exact .line (.refl _)
      · exact hr
  case hasCacheUrl => exact hc.hasCacheUrl
  case cacheCommand => exact hc.cacheCommand
  case paranoid => exact h.paranoid
  case skipResolvUpdates => exact h.skipResolvUpdates
  case skipEtcHostsFix => exact h.skipEtcHostsFix
  case hosts => exact h.hosts
  case repository => exact h.repository
  case job => exact h.job

end BuildScript

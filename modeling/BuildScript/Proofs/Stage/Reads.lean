import BuildScript.Pipeline

/-! # What the stages read

Each action of a stage depends on a build only through a few reads. On two builds that agree in
these the action is the same.
-/

namespace BuildScript

variable {b c : Build}

namespace Build

theorem textsOf_congr {name : String} (h : b.setting name = c.setting name) :
    b.textsOf name = c.textsOf name := by
  rw [textsOf, textsOf, h]

theorem caches_congr (h : b.setting "cache" = c.setting "cache") (kind : String) :
    b.caches kind = c.caches kind := by
  rw [caches, caches, h]

theorem cacheDirectories_congr (h : b.setting "cache" = c.setting "cache") :
    b.cacheDirectories = c.cacheDirectories := by
  rw [cacheDirectories, cacheDirectories, h]

end Build

namespace Environment

theorem sectionLines_eq (name : String) (es : Entries) :
    sectionLines name es = lines (Entries.get es name) := by
  induction es with
  | nil => rfl
  | cons e rest ih =>
    obtain ⟨key, s⟩ := e
    by_cases hk : key.sameKey (.text name) = true
    · simp [sectionLines, Entries.get, Entries.get?, hk]
    · simpa [sectionLines, Entries.get, Entries.get?, hk] using ih

end Environment

namespace Capability

theorem runAddons_congr (hp : b.payload.paranoid = c.payload.paranoid)
    (ha : b.setting "addons" = c.setting "addons") (hook : String) :
    runAddons b hook = runAddons c hook := by
  simp only [runAddons, runParts, hp, ha]

theorem runAddons_of_paranoid (hp : b.payload.paranoid = true) (hook : String) :
    runAddons b hook = pure () := if_pos hp

theorem checkout_congr (hr : b.payload.repository = c.payload.repository)
    (hj : b.payload.job = c.payload.job) (hg : b.setting "git" = c.setting "git") :
    checkout b = checkout c := by
  simp only [checkout, hr, hj, hg]

end Capability

namespace Profile

open Capability

variable {s t : Support}

theorem compiler_congr (h : b.config.required "compiler" = c.config.required "compiler") :
    compiler b = compiler c := by
  rw [compiler, compiler, h]

theorem ghc_congr (h : b.setting "ghc" = c.setting "ghc") : ghc b = ghc c := by
  rw [ghc, ghc, h]

theorem jdk_congr (h : b.setting "jdk" = c.setting "jdk") : jdk b = jdk c := by
  have hj : b.config.get "jdk" = c.config.get "jdk" := h
  rw [jdk, jdk, jdkVersion, jdkVersion, hj]

theorem androidList_congr (h : b.config.required "android" = c.config.required "android")
    (name : String) : androidList b name = androidList c name := by
  rw [androidList, androidList, h]

/-- The slug of a profile depends on its own toolchain alone. -/
theorem cacheSlug_congr (hc : compiler b = compiler c) (hg : ghc b = ghc c) (hj : jdk b = jdk c)
    (p : Profile) : p.cacheSlug b = p.cacheSlug c := by
  cases p with
  | base | generic => rfl
  | c | cpp => rw [cacheSlug, cacheSlug, hc]
  | haskell => rw [cacheSlug, cacheSlug, hg]
  | android | java => rw [cacheSlug, cacheSlug, hj]

theorem standard_congr (hh : b.payload.hosts = c.payload.hosts) :
    Fix.standard b = Fix.standard c := by
  funext f
  cases f with
  | aptCache =>
    change setUpAptCache b = setUpAptCache c
    rw [setUpAptCache, setUpAptCache, hh]
  | resolvConf | etcHosts | ps4 => rfl

theorem support_congr {p : Profile} (hh : b.payload.hosts = c.payload.hosts)
    (hs : p.cacheSlug b = p.cacheSlug c) : p.support b = p.support c := by
  rw [support, support, standard_congr hh, hs]

theorem configure_congr (hr : b.payload.skipResolvUpdates = c.payload.skipResolvUpdates)
    (he : b.payload.skipEtcHostsFix = c.payload.skipEtcHostsFix) (hf : s.fix = t.fix) :
    configure b s = configure c t := by
  simp only [configure, hr, he, hf]

theorem preSetup_congr (hs : b.textsOf "services" = c.textsOf "services")
    (hc : b.caches "apt" = c.caches "apt")
    (ha : runAddons b "after_pre_setup" = runAddons c "after_pre_setup") (hf : s.fix = t.fix) :
    preSetup b s = preSetup c t := by
  simp only [preSetup, hs, hc, ha, hf]

theorem dropPrivileges_congr (hp : b.payload.paranoid = c.payload.paranoid) :
    dropPrivileges b = dropPrivileges c := by
  simp only [dropPrivileges, hp]

theorem afterResult_congr (hs : b.textsOf "after_success" = c.textsOf "after_success")
    (hf : b.textsOf "after_failure" = c.textsOf "after_failure") :
    afterResult b = afterResult c := by
  simp only [afterResult, hs, hf]

theorem installComponents_congr (h : androidList b "licenses" = androidList c "licenses")
    (components : List Setting) :
    installComponents b components = installComponents c components := by
  have hi : installComponent b = installComponent c := by
    funext component
    rw [installComponent, installComponent, h]
  rw [installComponents, installComponents, hi]

end Profile

end BuildScript

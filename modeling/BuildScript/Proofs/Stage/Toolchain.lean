import BuildScript.Proofs.Stage.Footprint

/-! # Caches and toolchains

The cache of a build is named after its toolchain: the compiler of a C or C++ build, the GHC or the
JDK that a spec asks for, or none. Two caches have one name only if their toolchains are the same,
whatever texts the specs hold.
-/

namespace BuildScript

/-- A tool that tells the caches of builds apart, under the name of its setting. -/
inductive Tool
  | compiler
  | ghc
  | jdk
deriving DecidableEq

namespace Tool

def name : Tool → String
  | .compiler => "compiler"
  | .ghc => "ghc"
  | .jdk => "jdk"

/-- The names begin with different letters, so that no text can make up for the difference. -/
theorem eq_of_name_append {t u : Tool} {x y : String} (h : t.name ++ x = u.name ++ y) :
    t = u ∧ x = y := by
  cases t <;> cases u
  case compiler.compiler | ghc.ghc | jdk.jdk => exact ⟨rfl, (String.append_right_inj _).mp h⟩
  all_goals
    have hl := congrArg String.toList h
    rw [String.toList_append, String.toList_append] at hl
    cases hl

end Tool

/-- A tool and the text of the setting that names its version. -/
structure Toolchain where
  tool : Tool
  version : String
deriving DecidableEq

namespace Toolchain

def slug : Option Toolchain → String
  | none => "cache"
  | some t => "cache--" ++ (t.tool.name ++ ("-" ++ t.version))

theorem slug_some (t : Toolchain) :
    slug (some t) = "cache--" ++ t.tool.name ++ "-" ++ t.version := by
  simp only [slug, String.append_assoc]

theorem slug_injective {t u : Option Toolchain} (h : slug t = slug u) : t = u := by
  have bare (x : String) : "cache" ≠ "cache--" ++ x := by
    intro he
    have hl := congrArg String.toList he
    rw [String.toList_append] at hl
    cases hl
  cases t with
  | none =>
    cases u with
    | none => rfl
    | some u => exact absurd h (bare _)
  | some t =>
    cases u with
    | none => exact absurd h.symm (bare _)
    | some u =>
      obtain ⟨hn, hv⟩ := Tool.eq_of_name_append ((String.append_right_inj _).mp h)
      obtain ⟨tool, version⟩ := t
      obtain ⟨other, text⟩ := u
      cases hn
      cases (String.append_right_inj _).mp hv
      rfl

end Toolchain

namespace Profile

def tool? : Profile → Option Tool
  | .c | .cpp => some .compiler
  | .haskell => some .ghc
  | .android | .java => some .jdk
  | .base | .generic => none

def version? (s : Setting) : Option String := if s.isSet then some (s.written .sealed) else none

/-- The toolchain that a spec names, once it stands over the defaults of the profile. -/
def toolchain? (p : Profile) (spec : Entries) : Option Toolchain :=
  match p with
  | .c | .cpp => some ⟨.compiler, (Entries.get spec "compiler").written .sealed⟩
  | .haskell => (version? (Entries.get spec "ghc")).map (Toolchain.mk .ghc)
  | .android | .java => (version? (Entries.get spec "jdk")).map (Toolchain.mk .jdk)
  | .base | .generic => none

theorem toolchain?_congr {p : Profile} {spec other : Entries}
    (h : ∀ tool ∈ p.tool?, Entries.get spec tool.name = Entries.get other tool.name) :
    p.toolchain? spec = p.toolchain? other := by
  cases p with
  | base | generic => rfl
  | c | cpp =>
    have hc : Entries.get spec "compiler" = Entries.get other "compiler" := h .compiler rfl
    rw [toolchain?, toolchain?, hc]
  | haskell =>
    have hg : Entries.get spec "ghc" = Entries.get other "ghc" := h .ghc rfl
    rw [toolchain?, toolchain?, hg]
  | android | java =>
    have hj : Entries.get spec "jdk" = Entries.get other "jdk" := h .jdk rfl
    rw [toolchain?, toolchain?, hj]

theorem compiler_eq {p : Profile} {below : Setting}
    (hb : Entries.get? p.defaults (.text "compiler") = some below) (r : Resolution)
    (co : Option Entries) :
    compiler (Compiler.buildFor p r co) =
      .ok ((Entries.get (p.merged r) "compiler").written .sealed) := by
  rw [compiler, required_eq hb]
  rfl

theorem ghc_eq (p : Profile) (r : Resolution) (co : Option Entries) :
    ghc (Compiler.buildFor p r co) = .ok (version? (Entries.get (p.merged r) "ghc")) := rfl

theorem jdk_eq (p : Profile) (r : Resolution) (co : Option Entries) :
    jdk (Compiler.buildFor p r co) = .ok (version? (Entries.get (p.merged r) "jdk")) := rfl

theorem cacheSlug_eq (p : Profile) (r : Resolution) (co : Option Entries) :
    p.cacheSlug (Compiler.buildFor p r co) = .ok (Toolchain.slug (p.toolchain? (p.merged r))) := by
  cases p with
  | base | generic => rfl
  | c | cpp =>
    rw [cacheSlug, compiler_eq rfl, toolchain?, Toolchain.slug_some]
    rfl
  | haskell =>
    rw [cacheSlug, ghc_eq, toolchain?]
    cases version? _ with
    | none => rfl
    | some version =>
      rw [Option.map_some, Toolchain.slug_some]
      rfl
  | android | java =>
    rw [cacheSlug, jdk_eq, toolchain?]
    cases version? _ with
    | none => rfl
    | some version =>
      rw [Option.map_some, Toolchain.slug_some]
      rfl

end Profile

namespace Compiler

open Profile

/-- Every build has a slug, two builds have the same one just if they have the same toolchain, and
nothing else that a spec holds counts for it. -/
theorem slugs_tell_toolchains_apart (p q : Profile) (r s : Resolution) (co co' : Option Entries) :
    (∃ a b, p.cacheSlug (buildFor p r co) = .ok a ∧ q.cacheSlug (buildFor q s co') = .ok b ∧
      (a = b ↔ p.toolchain? (p.merged r) = q.toolchain? (q.merged s))) ∧
    ((∀ tool ∈ p.tool?, Entries.given r.payload.config tool.name =
        Entries.given s.payload.config tool.name) →
      p.cacheSlug (buildFor p r co) = p.cacheSlug (buildFor p s co')) := by
  refine ⟨⟨_, _, cacheSlug_eq p r co, cacheSlug_eq q s co', ?_⟩, fun h => ?_⟩
  · exact ⟨Toolchain.slug_injective, congrArg Toolchain.slug⟩
  · rw [cacheSlug_eq, cacheSlug_eq, toolchain?_congr fun tool ht => merged_congr (h tool ht)]

def toolSpec (language tool version os : String) : Resolution where
  payload := { config := .ofList [
    (.text "os", .text os), (.text "language", .text language), (.text tool, .text version)] }

/-- A GHC version may look like the end of the slug of a JDK. -/
theorem slugs_tell_toolchains_apart_nested :
    (∃ a b, Profile.haskell.cacheSlug
        (buildFor .haskell (toolSpec "haskell" "ghc" "7--jdk-8" "linux") none) = .ok a ∧
      Profile.java.cacheSlug (buildFor .java (toolSpec "java" "jdk" "8" "linux") none) = .ok b ∧
      a ≠ b) ∧
    Profile.java.cacheSlug (buildFor .java (toolSpec "java" "jdk" "8" "linux") none) =
      Profile.java.cacheSlug (buildFor .java (toolSpec "java" "jdk" "8" "osx") none) := by
  obtain ⟨⟨a, b, ha, hb, he⟩, -⟩ := slugs_tell_toolchains_apart .haskell .java
    (toolSpec "haskell" "ghc" "7--jdk-8" "linux") (toolSpec "java" "jdk" "8" "linux") none none
  refine ⟨⟨a, b, ha, hb, fun h => ?_⟩, (slugs_tell_toolchains_apart .java .java _ _ none none).2 ?_⟩
  · cases he.mp h
  · rintro tool ⟨⟩
    rfl

end Compiler

end BuildScript

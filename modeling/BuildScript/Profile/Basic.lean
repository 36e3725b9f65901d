import BuildScript.Build
import BuildScript.Capability.Checkout
import BuildScript.Capability.Jdk
import BuildScript.Setting.Overlay

/-! # Profiles

The language profiles: what each one adds to the defaults of a spec, which of its settings tell
toolchains apart, and the cache slug that follows from them.
-/

namespace BuildScript

/-- A language profile. The base profile knows the shared stages and no toolchain. -/
inductive Profile
  | base
  | generic
  | c
  | cpp
  | haskell
  | android
  | java
deriving DecidableEq

namespace Profile

open Setting (Misuse)

def name : Profile → String
  | .base | .generic => "generic"
  | .c => "c"
  | .cpp => "cpp"
  | .haskell => "haskell"
  | .android => "android"
  | .java => "java"

/-- The name under which the list of languages shows a profile. -/
def title : Profile → String
  | .base => "Script"
  | .generic => "Generic"
  | .c => "C"
  | .cpp => "Cpp"
  | .haskell => "Haskell"
  | .android => "Android"
  | .java => "PureJava"

/-- Settings of the profile alone, for a spec that leaves them out. -/
def ownDefaults : Profile → Entries
  | .c => [(.text "compiler", .text "gcc")]
  | .cpp => [(.text "compiler", .text "g++")]
  | .android => [(.text "android", .mapping [
      (.text "components", .list []), (.text "licenses", .list [])])]
  | .base | .generic | .haskell | .java => []

def defaults (p : Profile) : Entries := Setting.overlay Capability.checkoutDefaults p.ownDefaults

/-- The spec of a user over the defaults of the profile. -/
def mergedConfig (p : Profile) (config : Entries) : Setting :=
  .mapping (Setting.overlay p.defaults config)

/-- The compiler that a C or C++ spec names. -/
def compiler (b : Build) : Except Misuse String := do
  let s ← b.config.required "compiler"
  pure (s.written .sealed)

/-- The GHC version that a Haskell spec names, if any. -/
def ghc (b : Build) : Except Misuse (Option String) := do
  let s ← b.setting "ghc"
  pure (if s.isSet then some (s.written .sealed) else none)

def jdk (b : Build) : Except Misuse (Option String) := Capability.jdkVersion .sealed b.config

/-- The name that keeps the caches of different toolchains apart. -/
def cacheSlug (p : Profile) (b : Build) : Except Misuse String :=
  match p with
  | .base | .generic => .ok "cache"
  | .c | .cpp => do
    let name ← compiler b
    pure ("cache--compiler-" ++ name)
  | .haskell => do
    match ← ghc b with
    | some version => pure ("cache--ghc-" ++ version)
    | none => pure "cache"
  | .android | .java => do
    let version ← jdk b
    pure (Capability.jdkSlug "cache" version)

end Profile

end BuildScript

import BuildScript.Profile.Shared

/-! # Hooks of the profiles

What each language adds to the shared hooks. An addition to the environment, to the setup or to
the announcements comes after what all profiles do there; default commands stand alone.
-/

namespace BuildScript.Profile

open Capability Drafting

/-- The C++ and C compilers that belong to a compiler setting. -/
def compilerPair (name : String) : String × String :=
  if name = "gcc" ∨ name = "g++" then ("g++", "gcc")
  else if name = "clang" ∨ name = "clang++" then ("clang++", "clang")
  else (name, name)

def announceVersion (program : String) : Drafting Unit :=
  command { text := program ++ " --version", echo := true }

def autotoolsTest : Drafting Unit := testCommand "./configure && make && make test" true

def cHook (b : Build) (s : Support) : Stage → Drafting Unit
  | .environment => do
    sharedHook b s .environment
    assign { key := "CC", value := ← read (compiler b) }
  | .announce => do
    let name ← read (compiler b)
    announceVersion name
  | .script => autotoolsTest
  | stage => sharedHook b s stage

def cppHook (b : Build) (s : Support) : Stage → Drafting Unit
  | .environment => do
    sharedHook b s .environment
    let name ← read (compiler b)
    assign { key := "CXX", value := (compilerPair name).1 }
    assign { key := "CC", value := (compilerPair name).2 }
  | .announce => do
    let name ← read (compiler b)
    announceVersion (compilerPair name).1
  | .script => autotoolsTest
  | stage => sharedHook b s stage

def exportGhc : Option String → Drafting Unit
  | some version =>
    assign { key := "PATH", value := "/usr/local/ghc/$(ghc_find " ++ version ++ ")/bin/:$PATH" }
  | none => pure ()

/-- A command that fetches dependencies: retried, timed, and stopping the build when it fails. -/
def dependencies (text label : String) : Drafting Unit :=
  command { text := text, echo := true, asserted := true, retry := true, timing := true } label

def haskellHook (b : Build) (s : Support) : Stage → Drafting Unit
  | .setup => do
    sharedHook b s .setup
    let version ← read (ghc b)
    exportGhc version
  | .announce => do
    announceVersion "ghc"
    announceVersion "cabal"
  | .install => do
    dependencies "cabal update" "cabal"
    dependencies "cabal install --only-dependencies --enable-tests" "install"
  | .script => testCommand "cabal configure --enable-tests && cabal build && cabal test"
  | stage => sharedHook b s stage

/-- The members of a list among the Android settings. -/
def androidList (b : Build) (name : String) : Except Setting.Misuse (List Setting) := do
  let android ← b.config.required "android"
  let s ← android.required name
  s.members

/-- Licenses in the form of a pattern; each of them has to be a text. -/
def licensePattern (licenses : List Setting) : Except Setting.Misuse String := do
  let texts ← licenses.mapM fun
    | .text s => Except.ok s
    | _ => .error .notText
  pure ("|".intercalate texts)

def componentCommand (component : Setting) (licenses : List Setting) :
    Except Setting.Misuse String := do
  let update := "android-update-sdk --components=" ++ component.written .sealed
  if licenses.isEmpty then pure update
  else
    let pattern ← licensePattern licenses
    pure (update ++ " --accept-licenses='" ++ pattern ++ "'")

def installComponent (b : Build) (component : Setting) : Drafting Unit := do
  let licenses ← read (androidList b "licenses")
  let text ← read (componentCommand component licenses)
  command { text := text, echo := true, asserted := true }

def installComponents (b : Build) (components : List Setting) : Drafting Unit :=
  fold "android.install" do
    message "Installing Android dependencies"
    components.forM (installComponent b)

/-- Environment, setup and announcements of the profiles that run on a JVM. -/
def jvmHook (b : Build) (s : Support) : Stage → Drafting Unit
  | .environment => do
    sharedHook b s .environment
    let version ← read (jdk b)
    exportJdk version
  | .setup => do
    sharedHook b s .setup
    let version ← read (jdk b)
    switchJdk version
  | .announce => announceJdk
  | stage => sharedHook b s stage

def androidHook (b : Build) (s : Support) : Stage → Drafting Unit
  | .setup => do
    jvmHook b s .setup
    let components ← read (androidList b "components")
    if !components.isEmpty then
      installComponents b components
  | .script =>
    conditional "[[ -f gradlew ]]" do
      testCommand "./gradlew build connectedCheck"
      elseIf "[[ -f build.gradle ]]"
      testCommand "gradle build connectedCheck"
      elseIf "[[ -f pom.xml ]]"
      testCommand "mvn install -B"
      orElse
      -- worker tooling looks for this spelling
      testCommand "ant debug installt test"
  | stage => jvmHook b s stage

def javaHook (b : Build) (s : Support) : Stage → Drafting Unit
  | .install =>
    conditional "[[ -f build.gradle ]]" do
      dependencies "gradle assemble" "install"
      elseIf "[[ -f pom.xml ]]"
      dependencies "mvn install -DskipTests=true -Dmaven.javadoc.skip=true -B -V" "install"
  | .script =>
    conditional "[[ -f build.gradle ]]" do
      testCommand "gradle check"
      elseIf "[[ -f pom.xml ]]"
      testCommand "mvn test -B"
      orElse
      testCommand "ant test"
  | stage => jvmHook b s stage

def genericHook (b : Build) (s : Support) : Stage → Drafting Unit
  | .script => message "No script configured for this build." (some .yellow)
  | stage => sharedHook b s stage

/-- What a profile does at a stage by itself. -/
def hook (p : Profile) (b : Build) (s : Support) : Stage → Drafting Unit :=
  match p with
  | .base => sharedHook b s
  | .generic => genericHook b s
  | .c => cHook b s
  | .cpp => cppHook b s
  | .haskell => haskellHook b s
  | .android => androidHook b s
  | .java => javaHook b s

end BuildScript.Profile

import BuildScript.Draft

/-! # JDK selection

Switching to the JDK that a spec asks for, announcing it, and keeping its caches apart.
-/

namespace BuildScript.Capability

open Drafting

/-- The JDK that a spec asks for, if it asks for one. -/
def jdkVersion (form : Setting.Form) (config : Setting) : Except Setting.Misuse (Option String) := do
  let jdk ← config.get "jdk"
  pure (if jdk.isSet then some (jdk.written form) else none)

def exportJdk : Option String → Drafting Unit
  | some version => assign { key := "CIBUILD_JDK_VERSION", value := version, echo := false }
  | none => pure ()

def switchJdk : Option String → Drafting Unit
  | some version =>
    command { text := "jdk_switcher use " ++ version, echo := true, asserted := true }
  | none => pure ()

def announceJdk : Drafting Unit := do
  command { text := "java -version", echo := true }
  command { text := "javac -version", echo := true }

def jdkSlug (slug : String) : Option String → String
  | some version => slug ++ "--jdk-" ++ version
  | none => slug

end BuildScript.Capability

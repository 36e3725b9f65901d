import BuildScript.Profile.Basic
import BuildScript.Text.Blank
import BuildScript.Text.Case

/-! # Registry

Which profile stands for which language. Languages are looked up in a normal form without case
and outer blanks; they are bound in the form in which they are registered.
-/

namespace BuildScript

/-- Bindings of languages, and the names that registrations gave to what they bind. -/
structure Registry (κ : Type) where
  bindings : List (String × κ)
  names : List (κ × String)

namespace Registry

variable {κ : Type}

/-- A registration asked for a language that is already bound. -/
structure Conflict where
  language : String
deriving DecidableEq

/-- No profile is bound to a language. -/
structure Unknown where
  language : String
  available : List String
deriving DecidableEq

def Conflict.message (e : Conflict) : String :=
  "Language '" ++ e.language ++ "' is already registered"

def Unknown.message (e : Unknown) : String :=
  "unknown language '" ++ e.language ++ "'. Available: " ++ ", ".intercalate e.available

/-- The key under which a language is looked up. -/
def normalize (language : Setting) : String :=
  let given := if language.isSet then language.written .loose else "generic"
  String.ofList ((Text.lower (Text.strip given)).toList.map fun c => if c = '-' then '_' else c)

/-- The bound languages in the order of their code points. -/
def languages (r : Registry κ) : List String :=
  (r.bindings.map Prod.fst).mergeSort fun a b => !decide (b < a)

def get (r : Registry κ) (language : Setting) : Except Unknown κ :=
  let key := normalize language
  match r.bindings.lookup key with
  | some k => .ok k
  | none => .error ⟨key, r.languages⟩

theorem get_of_lookup {r : Registry κ} {language : Setting} {k : κ}
    (h : r.bindings.lookup (normalize language) = some k) : r.get language = .ok k := by
  rw [get, h]

/-- Binds languages one after the other, up to the first that is bound already. -/
def bind (r : Registry κ) (k : κ) : List String → Except Conflict Unit × Registry κ
  | [] => (.ok (), r)
  | language :: rest =>
    if (r.bindings.lookup language).isSome then (.error ⟨language⟩, r)
    else bind { r with bindings := r.bindings ++ [(language, k)] } k rest

/-- Names a profile and binds it to its name and to further languages. The name is given and
the languages before a conflict are bound even if the registration is rejected. -/
def register (r : Registry κ) (k : κ) (name : String) (aliases : List String) :
    Except Conflict Unit × Registry κ :=
  bind { r with names := (k, name) :: r.names } k (name :: aliases)

/-- The name that the latest registration gave, if any did. -/
def nameOf [BEq κ] (r : Registry κ) (k : κ) (missing : String) : String :=
  (r.names.lookup k).getD missing

/-- The languages that come with the library, with their aliases. -/
def standard : Registry Profile where
  bindings := [
    ("android", .android), ("c", .c), ("cpp", .cpp), ("c++", .cpp), ("generic", .generic),
    ("bash", .generic), ("sh", .generic), ("shell", .generic), ("haskell", .haskell),
    ("java", .java), ("pure_java", .java), ("jvm", .java)]
  names := [Profile.java, .haskell, .generic, .cpp, .c, .android].map fun p => (p, p.name)

end Registry

end BuildScript

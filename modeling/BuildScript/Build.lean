import BuildScript.Environment.Assignment
import BuildScript.Payload.Basic
import BuildScript.Setting.Reading
import BuildScript.Status

/-! # Builds

One build as its stages see it: the merged and sealed spec, the payload it came with, and the
options of the directory cache. Reads of the spec report a misuse where its shape is wrong.
-/

namespace BuildScript

structure Build where
  config : Setting
  payload : Payload := {}
  cacheOptions : Entries := []

namespace Build

open Setting (Misuse)

/-- The setting of the spec under a name, null when there is none. -/
def setting (b : Build) (name : String) : Except Misuse Setting := b.config.get name

/-- The texts of a setting that may be one text or a list. -/
def textsOf (b : Build) (name : String) : Except Misuse (List String) := do
  let s ← b.setting name
  s.texts .sealed

def language (b : Build) : Except Misuse String := do
  let s ← b.setting "language"
  pure (if s.isSet then s.written .sealed else "generic")

/-- Whether the spec asks for a kind of cache. -/
def caches (b : Build) (kind : String) : Except Misuse Bool := do
  match ← b.setting "cache" with
  | .text s => pure (s == kind)
  | .mapping es => pure (Entries.get es kind).isSet
  | .list items => pure (items.any fun | .text s => s == kind | _ => false)
  | .scalar _ => pure false

/-- The directories to cache, which only a mapping can name. -/
def cacheDirectories (b : Build) : Except Misuse (List String) := do
  match ← b.setting "cache" with
  | .mapping es =>
    let members ← (Entries.get es "directories").optionalMembers
    pure (members.map (Setting.written .sealed))
  | _ => pure []

end Build

namespace Environment

/-- Variables from one source, exported in the order of their declaration. -/
structure Group where
  source : String
  members : List Variable
deriving DecidableEq

def Group.isAnnounced (g : Group) : Bool := !g.members.isEmpty

mutual

/-- The lines of an environment setting: one line, a list, or sections of either kind. -/
def lines : Setting → List Setting
  | .null => []
  | .list items => items
  | .mapping es =>
    if Entries.contains es "global" || Entries.contains es "matrix" then
      sectionLines "global" es ++ sectionLines "matrix" es
    else [.mapping es]
  | .scalar s => [.scalar s]

def sectionLines (name : String) : List (Scalar × Setting) → List Setting
  | [] => []
  | (key, value) :: rest =>
    if key.sameKey (.text name) then lines value else sectionLines name rest

end

/-- The variables of one line. A mapping holds an encrypted line or nothing. -/
def ofLine : Setting → List Variable
  | .mapping es =>
    match Entries.get? es (.text "secure") with
    | some line => parse (line.written .sealed) true
    | none => []
  | line => parse (line.written .sealed)

def ofRepository (v : RepositoryVariable) : Variable where
  key := v.name
  value := v.value
  secure := !v.isPublic

/-- The variables of a build: those of the repository settings, then those of the spec. -/
def groups (b : Build) : Except Setting.Misuse (List Group) := do
  let env ← b.setting "env"
  pure [
    ⟨"repository settings", b.payload.envVars.map ofRepository⟩,
    ⟨specFile, (lines env).flatMap ofLine⟩]

end Environment

end BuildScript

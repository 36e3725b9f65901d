import BuildScript.Journal
import BuildScript.Payload.Validation
import BuildScript.Yaml.Document

/-! # Resolution

A payload together with the status of its spec. A payload comes from memory or from a spec file;
a file that is missing stands for an empty payload whose spec was not found.
-/

namespace BuildScript

structure Resolution where
  payload : Payload
  status : Status := .configured

namespace Status

/-- The status that a fetcher left in a spec, with a notice if it left something else. -/
def ofConfig (config : Entries) : Status × Journal :=
  match Entries.get config resultKey with
  | .null => (.configured, [])
  | .text s =>
    match ofName? s with
    | some status => (status, [])
    | none => (.configured, [.unknownResult (.text s)])
  | value => (.configured, [.unknownResult value])

end Status

namespace Resolution

def ofPayload (p : Payload) : Resolution × Journal :=
  let (status, journal) := Status.ofConfig p.config
  (⟨p, status⟩, journal)

/-- Why a spec file has no payload. -/
inductive Fault
  | unreadable (f : Yaml.Fault)
  | invalid (e : Payload.Invalid)
deriving DecidableEq

/-- What is looked at in the values of a loader, which may be of more kinds than settings are:
whether a value counts as given, and the entries of a mapping. A mapping that does not count as given
has no entries, and one without entries is the empty payload. -/
structure Values (α ε ρ : Type) where
  isSet : α → Bool
  entries? : α → Option ε
  /-- The mapping without entries. -/
  empty : α
  ofEntries : ε → Except Payload.Invalid ρ
  /-- What the empty payload is resolved to. -/
  blank : ρ
  entries?_eq_of_not_isSet {v : α} : isSet v = false → (entries? v).isSome = true →
    entries? v = entries? empty
  map_ofEntries_empty : (entries? empty).map ofEntries = some (.ok blank)

namespace Values

variable {α ε ρ : Type} (values : Values α ε ρ)

/-- Resolves a value that is at hand. Only a mapping can be a payload. -/
def atHand (v : α) : Except Payload.Invalid ρ :=
  match values.entries? v with
  | some es => values.ofEntries es
  | none => .error .notMapping

/-- Resolves the document of a spec file. An empty document stands for an empty mapping. -/
def inFile (v : α) : Except Payload.Invalid ρ :=
  values.atHand (if values.isSet v then v else values.empty)

/-- Resolves the text of a spec file with a loader. -/
def ofText (load : String → Except Yaml.Fault α) (text : String) : Except Fault ρ :=
  match load text with
  | .error f => .error (.unreadable f)
  | .ok v => (values.inFile v).mapError .invalid

end Values

/-- The settings as values of a loader. -/
def settings : Values Setting Entries (Resolution × Journal) where
  isSet := Setting.isSet
  entries?
    | .mapping es => some es
    | .scalar _ | .list _ => none
  empty := .mapping []
  ofEntries es := (Payload.ofEntries es).map ofPayload
  blank := (⟨{}, .configured⟩, [])
  entries?_eq_of_not_isSet {v} hs hm := by
    match v with
    | .mapping [] => rfl
    | .mapping (_ :: _) => cases hs
    | .scalar _ | .list _ => cases hm
  map_ofEntries_empty := rfl

/-- Resolves a payload that is at hand as a setting. -/
def ofSetting (s : Setting) : Except Payload.Invalid (Resolution × Journal) := settings.atHand s

/-- Resolves the text of a spec file. -/
def ofText (text : String) : Except Fault (Resolution × Journal) :=
  settings.ofText Yaml.document text

/-- Resolves a file that is not there. -/
def ofMissing (path : String) : Resolution × Journal :=
  (⟨{}, .notFound⟩, [.fileMissing path])

end Resolution

end BuildScript

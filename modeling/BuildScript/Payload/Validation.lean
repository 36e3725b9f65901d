import BuildScript.Number.Decimal
import BuildScript.Payload.Basic
import BuildScript.Setting.Text

/-! # Validation

A payload read from a setting. Every field is checked and every violation is reported, field by
field in the order of the payload.
-/

namespace BuildScript

namespace Validation

/-- What is wrong with a value. -/
inductive Problem
  | notMapping
  | notList
  | notText
  | missing
  | notRecord
  | unknownWord
  | notUnicode
  | notSwitch
  | notPath
deriving DecidableEq

def Problem.name : Problem → String
  | .notMapping => "dict_type"
  | .notList => "list_type"
  | .notText => "string_type"
  | .missing => "missing"
  | .notRecord => "model_type"
  | .unknownWord => "bool_parsing"
  | .notUnicode => "string_unicode"
  | .notSwitch => "bool_type"
  | .notPath => "path_type"

inductive Place
  | name (s : String)
  | index (n : Int)
deriving DecidableEq

/-- A violation and where it is. -/
structure Detail where
  place : List Place
  problem : Problem
deriving DecidableEq

/-- A value, usable only if no violation was found. -/
structure Checked (α : Type) where
  value : α
  details : List Detail

def Checked.toExcept {α : Type} (c : Checked α) : Except (List Detail) α :=
  if c.details = [] then .ok c.value else .error c.details

def accept {α : Type} (value : α) : Checked α := ⟨value, []⟩

def reject {α : Type} (value : α) (place : List Place) (problem : Problem) : Checked α :=
  ⟨value, [⟨place, problem⟩]⟩

/-- Whether an integer fits into a machine word. -/
def isWord (n : Int) : Bool := decide (-9223372036854775808 ≤ n) && decide (n < 9223372036854775808)

/-- How a key is shown in a place. Each of the three bytes of half of a surrogate pair, which no
text can show, is replaced. -/
def keyPlace : Scalar → Place
  | .text s => .name (Text.replaceSurrogates (fun _ => ['\ufffd', '\ufffd', '\ufffd']) s)
  | .bool b => .index (if b then 1 else 0)
  | .int n => if isWord n then .index n else .name (decimal n)
  | s => .name s.shown

def trueWords : List String := ["1", "on", "t", "true", "y", "yes"]

def falseWords : List String := ["0", "off", "f", "false", "n", "no"]

def asciiLower (s : String) : String := String.ofList (s.toList.map Char.toLower)

def switchOfInt (place : List Place) (n : Int) : Checked Bool :=
  if n = 0 then accept false
  else if n = 1 then accept true
  else reject false place .unknownWord

/-- A switch: a truth value, zero or one, or one of the words for them. -/
def switch (place : List Place) : Setting → Checked Bool
  | .bool b => accept b
  | .int n => if isWord n then switchOfInt place n else reject false place .notSwitch
  | .float x =>
    match x.toInt? with
    | some n =>
      if isWord n && n != -9223372036854775808 then switchOfInt place n
      else reject false place .notSwitch
    | none => reject false place .notSwitch
  | .text s =>
    if Text.hasSurrogate s then reject false place .notUnicode
    else if trueWords.contains (asciiLower s) then accept true
    else if falseWords.contains (asciiLower s) then accept false
    else reject false place .unknownWord
  | .null | .list _ | .mapping _ => reject false place .notSwitch

def string (place : List Place) : Setting → Checked String
  | .text s => accept s
  | _ => reject "" place .notText

def keyDetails (place : List Place) (key : Scalar) : List Detail :=
  match key with
  | .text _ => []
  | key => [⟨place ++ [keyPlace key, .name "[key]"], .notText⟩]

/-- A mapping with names for keys and any values. -/
def entries (place : List Place) : Setting → Checked Entries
  | .mapping es => ⟨es, es.flatMap fun e => keyDetails place e.1⟩
  | _ => reject [] place .notMapping

def host (place : List Place) (entry : Scalar × Setting) : Checked (String × String) :=
  let value := string (place ++ [keyPlace entry.1]) entry.2
  ⟨(entry.1.written, value.value), keyDetails place entry.1 ++ value.details⟩

/-- A mapping from names to texts. -/
def hostEntries (place : List Place) : Setting → Checked (List (String × String))
  | .mapping es =>
    let checked := es.map (host place)
    ⟨checked.map Checked.value, checked.flatMap Checked.details⟩
  | _ => reject [] place .notMapping

/-- A field that may be left out. -/
def optionalField {α : Type} (es : Entries) (name : String) (missing : α)
    (check : List Place → Setting → Checked α) (place : List Place := []) : Checked α :=
  match Entries.get? es (.text name) with
  | some v => check (place ++ [.name name]) v
  | none => accept missing

/-- A field that has to be there. -/
def requiredField {α : Type} (es : Entries) (name : String) (default : α)
    (check : List Place → Setting → Checked α) (place : List Place) : Checked α :=
  match Entries.get? es (.text name) with
  | some v => check (place ++ [.name name]) v
  | none => reject default (place ++ [.name name]) .missing

def repositoryVariable (place : List Place) : Setting → Checked RepositoryVariable
  | .mapping es =>
    let name := requiredField es "name" "" string place
    let value := requiredField es "value" "" string place
    let isPublic := optionalField es "public" false switch place
    ⟨⟨name.value, value.value, isPublic.value⟩, name.details ++ value.details ++ isPublic.details⟩
  | _ => reject ⟨"", "", false⟩ place .notRecord

def repositoryVariablesFrom (place : List Place) (index : Nat) :
    List Setting → Checked (List RepositoryVariable)
  | [] => accept []
  | item :: rest =>
    let first := repositoryVariable (place ++ [.index index]) item
    let more := repositoryVariablesFrom place (index + 1) rest
    ⟨first.value :: more.value, first.details ++ more.details⟩

def repositoryVariables (place : List Place) : Setting → Checked (List RepositoryVariable)
  | .list items => repositoryVariablesFrom place 0 items
  | _ => reject [] place .notList

end Validation

namespace Payload

open Validation

/-- Why a setting is no payload. -/
inductive Invalid
  | notMapping
  | keysNotNames
  | fields (details : List Detail)
deriving DecidableEq

/-- Checks the fields of a payload that is written out in full. -/
def check (es : Entries) : Checked Payload :=
  let config := optionalField es "config" [] entries
  let envVars := optionalField es "env_vars" [] repositoryVariables
  let paranoid := optionalField es "paranoid" false switch
  let skipResolvUpdates := optionalField es "skip_resolv_updates" false switch
  let skipEtcHostsFix := optionalField es "skip_etc_hosts_fix" false switch
  let hosts := optionalField es "hosts" [] hostEntries
  let cacheOptions := optionalField es "cache_options" [] entries
  let repository := optionalField es "repository" [] entries
  let job := optionalField es "job" [] entries
  { value := {
      config := config.value
      envVars := envVars.value
      paranoid := paranoid.value
      skipResolvUpdates := skipResolvUpdates.value
      skipEtcHostsFix := skipEtcHostsFix.value
      hosts := hosts.value
      cacheOptions := cacheOptions.value
      repository := repository.value
      job := job.value }
    details := config.details ++ envVars.details ++ paranoid.details ++
      skipResolvUpdates.details ++ skipEtcHostsFix.details ++ hosts.details ++
      cacheOptions.details ++ repository.details ++ job.details }

/-- A payload from a mapping. A mapping without a `config` entry is a bare build spec. -/
def ofEntries (es : Entries) : Except Invalid Payload :=
  if Entries.contains es "config" then
    if es.all fun e => keyDetails [] e.1 = [] then (check es).toExcept.mapError .fields
    else .error .keysNotNames
  else (check [(.text "config", .mapping es)]).toExcept.mapError .fields

def ofSetting : Setting → Except Invalid Payload
  | .mapping es => ofEntries es
  | _ => .error .notMapping

/-- The payload written out in full. -/
def toEntries (p : Payload) : Entries := [
  (.text "config", .mapping p.config),
  (.text "env_vars", .list (p.envVars.map fun v => .mapping [
    (.text "name", .text v.name), (.text "value", .text v.value),
    (.text "public", .bool v.isPublic)])),
  (.text "paranoid", .bool p.paranoid),
  (.text "skip_resolv_updates", .bool p.skipResolvUpdates),
  (.text "skip_etc_hosts_fix", .bool p.skipEtcHostsFix),
  (.text "hosts", .mapping (p.hosts.map fun h => (.text h.1, .text h.2))),
  (.text "cache_options", .mapping p.cacheOptions),
  (.text "repository", .mapping p.repository),
  (.text "job", .mapping p.job)]

end Payload

/-- Switches of the compiler itself. -/
structure Options where
  templatesDir : Option String := none
  logTree : Bool := false
deriving DecidableEq

namespace Options

open Validation

def path (place : List Place) : Setting → Checked (Option String)
  | .null => accept none
  | .text s => accept (some s)
  | _ => reject none place .notPath

def ofEntries (es : Entries) : Except (List Detail) Options :=
  let templatesDir := optionalField es "templates_dir" none path
  let logTree := optionalField es "log_ast" false switch
  Checked.toExcept ⟨⟨templatesDir.value, logTree.value⟩, templatesDir.details ++ logTree.details⟩

end Options

end BuildScript

import BuildScript.Draft

/-! # Directory cache

Directories fetched before a build and pushed after it. The archive is named by a slug, and the
address of the cache, which may be signed, keeps the command out of the build log.
-/

namespace BuildScript.Capability

open Drafting

inductive CacheAction
  | fetch
  | push
deriving DecidableEq

def CacheAction.name : CacheAction → String
  | .fetch => "fetch"
  | .push => "push"

/-- Whether the options hold the address of a cache. -/
def hasCacheUrl (options : Entries) : Bool := (Entries.get options "url").isSet

/-- The cache command. Directories stand in it as shell text, so that variables expand. -/
def cacheCommand (options : Entries) (action : CacheAction) (slug : String)
    (directories : List String) : String :=
  let url := Entries.get options "url"
  let address := if url.isSet then ["--url=" ++ Text.shellQuote (url.written .loose)] else []
  " ".intercalate (["cibuild-cache", action.name, "--slug=" ++ Text.shellQuote slug] ++
    address ++ directories)

/-- Writes the cache command in a fold of its own, if there are directories. -/
def useCache (options : Entries) (action : CacheAction) (slug : String) (directories : Setting) :
    Drafting Unit :=
  if !directories.isSet then pure ()
  else fold ("cache." ++ action.name) do
    match action with
    | .fetch => message "Setting up build cache" (some .green)
    | .push => pure ()
    let members ← read directories.members
    let text := cacheCommand options action slug (members.map (Setting.written .loose))
    command { text := text, echo := true, timing := true, secure := hasCacheUrl options }

end BuildScript.Capability

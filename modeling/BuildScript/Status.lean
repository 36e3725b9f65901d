/-! # Fetch status

Whether the build spec could be fetched. A fetcher leaves its verdict in the spec itself.
-/

namespace BuildScript

inductive Status
  | configured
  | notFound
  | serverError
deriving DecidableEq

namespace Status

def name : Status → String
  | .configured => "configured"
  | .notFound => "not_found"
  | .serverError => "server_error"

def ofName? (s : String) : Option Status :=
  [Status.configured, .notFound, .serverError].find? fun status => status.name == s

end Status

/-- The entry of a spec that holds its fetch status. -/
def resultKey : String := ".result"

/-- The file that a build spec is fetched from. -/
def specFile : String := ".cibuild.yml"

end BuildScript

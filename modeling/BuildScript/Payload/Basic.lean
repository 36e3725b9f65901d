import BuildScript.Setting.Basic

/-! # Payloads

What a scheduler hands over for one build: the build spec, and the settings of the worker, the
repository and the job.
-/

namespace BuildScript

/-- A variable defined in the settings of a repository. -/
structure RepositoryVariable where
  name : String
  value : String
  isPublic : Bool := false
deriving DecidableEq

structure Payload where
  config : Entries := []
  envVars : List RepositoryVariable := []
  paranoid : Bool := false
  skipResolvUpdates : Bool := false
  skipEtcHostsFix : Bool := false
  hosts : List (String × String) := []
  cacheOptions : Entries := []
  repository : Entries := []
  job : Entries := []

end BuildScript

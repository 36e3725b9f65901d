import BuildScript.Draft
import BuildScript.Text.Case

/-! # Services

Background services that a build asks for, started by the names of their init scripts.
-/

namespace BuildScript.Capability

open Drafting

/-- Names that users write, and the init scripts they mean. -/
def serviceAliases : List (String × String) := [
  ("hbase", "hbase-master"),
  ("memcache", "memcached"),
  ("mongodb", "mongod"),
  ("rabbitmq", "rabbitmq-server"),
  ("redis", "redis-server")]

def serviceName (name : String) : String :=
  let lowered := Text.lower name
  (serviceAliases.lookup lowered).getD lowered

def startService (name : String) : Drafting Unit :=
  command { text := "sudo service " ++ serviceName name ++ " start", echo := true }

/-- Starts services and gives them time to come up. -/
def startServices (names : List String) : Drafting Unit :=
  if names.isEmpty then pure ()
  else fold "services" do
    names.forM startService
    raw "sleep 3"

end BuildScript.Capability

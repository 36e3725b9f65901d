import BuildScript.Capability.Addon
import BuildScript.Capability.DirectoryCache
import BuildScript.Capability.Services
import BuildScript.Profile.Basic

/-! # Shared hooks

What every profile does at the stages: fixes to the worker, checkout, services, environment,
caches, and the commands after the result.
-/

namespace BuildScript.Profile

open Capability Drafting

def nameservers : List String := ["199.91.168.70", "199.91.168.71"]

/-- Adds name servers unless the worker has one of their network. -/
def fixResolvConf : Drafting Unit :=
  let servers := "\\n".intercalate (nameservers.map fun ip => "nameserver " ++ ip)
  command { text :=
    "grep '199.91.168' /etc/resolv.conf > /dev/null || echo -e '" ++ servers ++
      "' | sudo tee /etc/resolv.conf &> /dev/null" }

/-- Lets the name of the worker resolve to itself. -/
def fixEtcHosts : Drafting Unit :=
  command { text :=
    "sudo sed -e 's/^\\(127\\.0\\.0\\.1.*\\)$/\\1 '\x60hostname\x60'/' -i'.bak' /etc/hosts" }

def fixPs4 : Drafting Unit := assign { key := "PS4", value := "\"+ \"", echo := false }

/-- Sends package downloads through the cache of the infrastructure, if it has one. -/
def setUpAptCache (b : Build) : Drafting Unit :=
  match (b.payload.hosts.lookup "apt_cache").getD "" with
  | "" => pure ()
  | host => do
    message "Setting up APT cache" (some .green)
    command { text :=
      "echo 'Acquire::http \x7b Proxy \"" ++ host ++
        "\"; \x7d;' | sudo tee /etc/apt/apt.conf.d/01proxy &> /dev/null" }

/-- Steps of the shared stages that a profile may replace each by itself. -/
inductive Fix
  | resolvConf
  | etcHosts
  | aptCache
  | ps4
deriving DecidableEq

namespace Fix

def name : Fix → String
  | .resolvConf => "fix_resolv_conf"
  | .etcHosts => "fix_etc_hosts"
  | .aptCache => "setup_apt_cache"
  | .ps4 => "fix_ps4"

def all : List Fix := [.resolvConf, .etcHosts, .aptCache, .ps4]

def ofName? (s : String) : Option Fix := all.find? fun f => f.name == s

/-- What a fix does unless it is replaced. -/
def standard (b : Build) : Fix → Drafting Unit
  | .resolvConf => fixResolvConf
  | .etcHosts => fixEtcHosts
  | .aptCache => setUpAptCache b
  | .ps4 => fixPs4

end Fix

/-- What the shared stages call on and leave to a profile. -/
structure Support where
  fix : Fix → Drafting Unit
  slug : Drafting String

/-- The standard fixes and the slug of the profile. -/
def support (p : Profile) (b : Build) : Support := ⟨Fix.standard b, read (p.cacheSlug b)⟩

def configure (b : Build) (s : Support) : Drafting Unit := do
  if !b.payload.skipResolvUpdates then
    s.fix .resolvConf
  if !b.payload.skipEtcHostsFix then
    s.fix .etcHosts

def preSetup (b : Build) (s : Support) : Drafting Unit := do
  let services ← read (b.textsOf "services")
  startServices services
  if ← read (b.caches "apt") then
    s.fix .aptCache
  s.fix .ps4
  runAddons b "after_pre_setup"

/-- Takes the means of gaining rights from a build that is not trusted. -/
def dropPrivileges (b : Build) : Drafting Unit := do
  if b.payload.paranoid then
    newline
    message "Sudo, services, addons, setuid and setgid have been disabled." (some .green)
    newline
    command { text :=
      "sudo -n sh -c \"sed -e 's/^%.*//' -i.bak /etc/sudoers && " ++
        "rm -f /etc/sudoers.d/cibuild && " ++
        "find / -perm -4000 -exec chmod a-s \x7b\x7d \\; 2>/dev/null\"" }

def exportGroup (g : Environment.Group) : Drafting Unit := do
  if g.isAnnounced then
    message ("Setting environment variables from " ++ g.source) (some .green)
  g.members.forM fun v => assign ⟨v.key, v.value, v.echo, v.secure⟩

def environment (b : Build) : Drafting Unit := do
  assign { key := "CIBUILD", value := "true", echo := false }
  assign { key := "CI", value := "true", echo := false }
  assign { key := "CONTINUOUS_INTEGRATION", value := "true", echo := false }
  let groups ← read (Environment.groups b)
  let announced := groups.any Environment.Group.isAnnounced
  if announced then
    newline
  groups.forM exportGroup
  if announced then
    newline

/-- Fetches or pushes the cached directories, if the spec asks for it. -/
def useDirectoryCache (b : Build) (s : Support) (action : CacheAction) : Drafting Unit := do
  if ← read (b.caches "directories") then
    let slug ← s.slug
    let directories ← read b.cacheDirectories
    useCache b.cacheOptions action slug (.list (directories.map .text))

/-- Runs a test command; unless a failure stops the build, its result is recorded. -/
def testCommand (text : String) (asserted : Bool := false) : Drafting Unit := do
  command { text := text, echo := true, asserted := asserted, timing := true }
  if !asserted then
    raw "cibuild_result $?"

def timedCommand (text : String) : Drafting Unit :=
  command { text := text, echo := true, timing := true }

/-- Commands that depend on the recorded result. -/
def afterResult (b : Build) : Drafting Unit := do
  let success ← read (b.textsOf "after_success")
  let failure ← read (b.textsOf "after_failure")
  if success.isEmpty && failure.isEmpty then
    pure ()
  else if success.isEmpty then
    conditional "[[ $CIBUILD_TEST_RESULT != 0 ]]" do
      failure.forM timedCommand
  else
    conditional "[[ $CIBUILD_TEST_RESULT = 0 ]]" do
      success.forM timedCommand
      if !failure.isEmpty then
        orElse
        failure.forM timedCommand

/-- What is done on exit, even after a command has stopped the build. -/
def onExit (p : Profile) (b : Build) : Drafting Unit := useDirectoryCache b (p.support b) .push

/-- The hook of the base profile at a stage. -/
def sharedHook (b : Build) (s : Support) : Stage → Drafting Unit
  | .configure => configure b s
  | .checkout => checkout b
  | .preSetup => preSetup b s
  | .paranoidMode => dropPrivileges b
  | .environment => environment b
  | .setup => useDirectoryCache b s .fetch
  | .afterResult => afterResult b
  | .announce | .beforeInstall | .install | .beforeScript | .script | .afterScript => pure ()

end BuildScript.Profile

import BuildScript.Build
import BuildScript.Draft

/-! # Addons

Additions to a build that its spec configures by name. An addon has one hook at which it writes;
the hooks are named after the stages around which they lie.
-/

namespace BuildScript.Capability

open Drafting

inductive Addon
  | hosts
  | aptPackages
deriving DecidableEq

namespace Addon

def all : List Addon := [.hosts, .aptPackages]

def name : Addon → String
  | .hosts => "hosts"
  | .aptPackages => "apt_packages"

def ofName? (s : String) : Option Addon := all.find? fun a => a.name == s

/-- The hook at which the addon writes. -/
def hook : Addon → String
  | .hosts => "after_pre_setup"
  | .aptPackages => "before_install"

/-- Lets host names resolve to the machine itself. -/
def writeHosts (names : List String) : Drafting Unit :=
  let line := " ".intercalate names
  if line = "" then pure ()
  else command {
    text := "echo " ++ Text.shellQuote ("127.0.0.1 " ++ line) ++
      " | sudo tee -a /etc/hosts > /dev/null"
    echo := true }

/-- Installs packages. -/
def writePackages (packages : List String) : Drafting Unit :=
  let words := " ".intercalate (packages.map Text.shellQuote)
  if words = "" then pure ()
  else fold "apt" do
    message "Installing APT Packages" (some .yellow)
    command {
      text := "sudo -E apt-get -yq --no-install-suggests --no-install-recommends install " ++ words
      echo := true, asserted := true, retry := true, timing := true }

def write : Addon → List String → Drafting Unit
  | .hosts => writeHosts
  | .aptPackages => writePackages

/-- What an addon does at a hook that it knows. -/
inductive Part
  | hook
  /-- The name of the hook is that of a member which runs and writes nothing. -/
  | idle
  /-- The name of the hook is that of a member which cannot be run. -/
  | member
deriving DecidableEq

/-- The part that an addon with its setting has at a hook, if it has one. -/
def part? (a : Addon) (config : Setting) (hook : String) : Option Part :=
  if hook = a.hook then some .hook
  else
    match hook, config with
    | "name", _ | "_as_list", _ => some .member
    | "config", .null => none
    | "config", _ => some .member
    | _, _ => none

/-- Runs the addon with its setting in a spec. -/
def run (a : Addon) (form : Setting.Form) (config : Setting) : Part → Drafting Unit
  | .hook => do
    let values ← read (config.optionalTexts form)
    a.write values
  | .idle => pure ()
  | .member => throw .notRunnable

end Addon

/-- Runs one entry of the addon settings for a hook. -/
def runAddon (partOf? : Addon → Setting → Option Addon.Part) (hook : String)
    (entry : Scalar × Setting) : Drafting Unit :=
  let addon := match entry.1 with
    | .text name => Addon.ofName? name
    | _ => none
  match addon with
  | none => note (.unknownAddon entry.1)
  | some a =>
    match partOf? a entry.2 with
    | some part => do
      note (.runningAddon a.name hook)
      a.run .sealed entry.2 part
    | none => pure ()

/-- Runs the parts that the addons of a build have at a hook, in the order of their settings. A
paranoid build runs none. -/
def runParts (partOf? : Addon → Setting → Option Addon.Part) (b : Build) (hook : String) :
    Drafting Unit := do
  if b.payload.paranoid then pure ()
  else
    let addons ← read (b.setting "addons")
    let entries ← read (if addons.isSet then addons.entries else .ok [])
    entries.forM (runAddon partOf? hook)

/-- Runs the addons of a build for a hook. -/
def runAddons (b : Build) (hook : String) : Drafting Unit :=
  runParts (fun a config => a.part? config hook) b hook

end BuildScript.Capability

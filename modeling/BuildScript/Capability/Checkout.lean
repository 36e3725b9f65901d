import BuildScript.Build
import BuildScript.Draft

/-! # Checkout

A shallow clone of the repository under test, the ref of a pull request, the commit, and the
submodules.
-/

namespace BuildScript.Capability

open Drafting

/-- The settings of the checkout that every profile starts from. -/
def checkoutDefaults : Entries := [
  (.text "git", .mapping [
    (.text "depth", .int 50),
    (.text "submodules", .bool true),
    (.text "strategy", .text "clone")])]

/-- The command that clones a repository into the directory named by its slug. -/
def cloneCommand (depth branch source slug : Setting) : String :=
  "git clone --depth=" ++ depth.written .sealed ++
    (if branch.isSet then " --branch=" ++ Text.shellQuote (branch.written .sealed) else "") ++
    " " ++ source.written .sealed ++ " " ++ slug.written .sealed

def submodules : Drafting Unit :=
  conditional "[[ -f .gitmodules ]]" do
    fold "git.submodule" do
      command { text := "git submodule init", echo := true }
      command { text := "git submodule update", echo := true, asserted := true, retry := true }

/-- Checks out the repository of the payload, if it names one. -/
def checkout (b : Build) : Drafting Unit := do
  let repository := b.payload.repository
  let job := b.payload.job
  let slug := Entries.get repository "slug"
  if !slug.isSet then
    note .noRepository
  else
    let git ← read (b.setting "git")
    let git ← read (if git.isSet then git.entries else .ok [])
    let option (name : String) (missing : Setting) := (Entries.get? git (.text name)).getD missing
    let strategy := option "strategy" (.text "clone")
    match strategy with
    | .text "clone" => pure ()
    | other => note (.unsupportedStrategy other)
    let given := Entries.get repository "source_url"
    let source := if given.isSet then given
      else .text ("https://github.com/" ++ slug.written .sealed ++ ".git")
    let clone := cloneCommand (option "depth" (.int 50)) (Entries.get job "branch") source slug
    command { text := clone, echo := true, asserted := true, retry := true } "git.checkout"
    command { text := "cd " ++ slug.written .sealed, echo := true }
    let ref := Entries.get job "ref"
    if ref.isSet then
      command { text := "git fetch origin +" ++ ref.written .sealed ++ ":", echo := true,
                asserted := true, retry := true } "git.fetch"
    let commit := Entries.get job "commit"
    if commit.isSet then
      command { text := "git checkout -qf " ++ commit.written .sealed, echo := true,
                asserted := true }
    if (option "submodules" (.bool true)).isSet then
      submodules

end BuildScript.Capability

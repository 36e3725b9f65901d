import BuildScript.Text.Blank
import BuildScript.Text.Literal
import BuildScript.Text.Case
import BuildScript.Text.Lines
import BuildScript.Text.ShellWord
import BuildScript.Number.Decimal
import BuildScript.Setting.Overlay
import BuildScript.Setting.Reading
import BuildScript.Shell.Outline
import BuildScript.Shell.Session
import BuildScript.Build
import BuildScript.Payload.Json
import BuildScript.Resolution
import BuildScript.Capability.Checkout
import BuildScript.Capability.Services
import BuildScript.Capability.DirectoryCache
import BuildScript.Capability.Jdk
import BuildScript.Capability.Addon
import BuildScript.Pipeline
import BuildScript.Compiler
import BuildScript.Yaml.Token
import BuildScript.Yaml.Document
import BuildScript.Main
import BuildScript.Proofs.Shell.Nesting
import BuildScript.Proofs.Shell.Failure
import BuildScript.Proofs.Stage.Concatenation
import BuildScript.Proofs.Secret.Compile
import BuildScript.Proofs.Shell.StatusReads
import BuildScript.Proofs.Stage.Verdict
import BuildScript.Proofs.Stage.UserText
import BuildScript.Proofs.Stage.Documented
import BuildScript.Proofs.Stage.FetchStatus
import BuildScript.Proofs.Stage.Order
import BuildScript.Proofs.Stage.Cache
import BuildScript.Proofs.Stage.Toolchain
import BuildScript.Proofs.Stage.SpecKeys
import BuildScript.Proofs.Stage.Paranoid
import BuildScript.Proofs.Stage.Misuse
import BuildScript.Proofs.Shell.Dump
import BuildScript.Proofs.Shell.Disclosure
import BuildScript.Proofs.Shell.Legible
import BuildScript.Proofs.Shell.Balance
import BuildScript.Proofs.Shell.Depth
import BuildScript.Proofs.Shell.Quiet
import BuildScript.Proofs.Shell.Traversal
import BuildScript.Proofs.Stage.Exports
import BuildScript.Proofs.Environment.Unquoted
import BuildScript.Proofs.Shell.CheckoutWords
import BuildScript.Proofs.Setting.AtPath
import BuildScript.Proofs.Setting.Merge
import BuildScript.Proofs.Stage.Listed
import BuildScript.Proofs.Stage.Defaults
import BuildScript.Proofs.Stage.Characters
import BuildScript.Proofs.Stage.Addons
import BuildScript.Proofs.Shell.Sharing
import BuildScript.Proofs.Registry.Lookup
import BuildScript.Proofs.Registry.History
import BuildScript.Proofs.Payload.Normal
import BuildScript.Proofs.Payload.Document
import BuildScript.Proofs.Payload.Keyed
import BuildScript.Proofs.Template.Verbatim

import BuildScript.Proofs.Shell.Quoting
import BuildScript.Proofs.Text.BareWord

/-! # Words of a checkout

The branch is quoted where it is cloned. The other values that a checkout is asked for are written
as they stand, so its commands are read as they are meant just if each of these values is a bare
word, or can be the rest of a word where it is a part of one.
-/

namespace BuildScript.Shell

open Capability Drafting Text

mutual

def Node.commands : Node → List Command
  | .command c => [c]
  | .assign _ | .raw _ => []
  | .conditional branches => Branch.commandsOfAll branches
  | .fold _ body => Script.commands body

def Script.commands : List Node → List Command
  | [] => []
  | n :: rest => n.commands ++ Script.commands rest

def Branch.commandsOfAll : List Branch → List Command
  | [] => []
  | ⟨_, body⟩ :: rest => Script.commands body ++ Branch.commandsOfAll rest

end

theorem Script.commands_append (ns ms : List Node) :
    Script.commands (ns ++ ms) = Script.commands ns ++ Script.commands ms := by
  induction ns with
  | nil => rfl
  | cons n rest ih => rw [List.cons_append, commands, ih, commands, List.append_assoc]

structure Request where
  depth : String
  branch : Option String
  source : String
  slug : String
  ref : Option String
  commit : Option String
  submodules : Bool

namespace Request

def given (s : Setting) : Option String := if s.isSet then some (s.written .sealed) else none

def ofBuild (b : Build) (git : Entries) : Request :=
  let slug := (Entries.get b.payload.repository "slug").written .sealed
  { depth := ((Entries.get? git (.text "depth")).getD (.int 50)).written .sealed
    branch := given (Entries.get b.payload.job "branch")
    source := (given (Entries.get b.payload.repository "source_url")).getD
      ("https://github.com/" ++ slug ++ ".git")
    slug
    ref := given (Entries.get b.payload.job "ref")
    commit := given (Entries.get b.payload.job "commit")
    submodules := ((Entries.get? git (.text "submodules")).getD (.bool true)).isSet }

variable (q : Request)

/-- The commands in order, each as it is written and as it is meant: a value is a word, or a part of
one, as it stands. -/
def commands : List (String × List Word) :=
  [("git clone --depth=" ++ q.depth ++
      (q.branch.map fun branch => " --branch=" ++ shellQuote branch).getD "" ++
      " " ++ q.source ++ " " ++ q.slug,
    [plain "git", plain "clone", plain ("--depth=" ++ q.depth)] ++
      (q.branch.map fun branch => plain ("--branch=" ++ branch)).toList ++
      [plain q.source, plain q.slug]),
    ("cd " ++ q.slug, [plain "cd", plain q.slug])] ++
  (q.ref.map fun ref => ("git fetch origin +" ++ ref ++ ":",
    [plain "git", plain "fetch", plain "origin", plain ("+" ++ ref ++ ":")])).toList ++
  (q.commit.map fun commit => ("git checkout -qf " ++ commit,
    [plain "git", plain "checkout", plain "-qf", plain commit])).toList ++
  if q.submodules then [
    ("git submodule init", [plain "git", plain "submodule", plain "init"]),
    ("git submodule update", [plain "git", plain "submodule", plain "update"])] else []

/-- Nothing in the values that are not quoted means anything to a shell. -/
structure IsBare : Prop where
  depth : IsWordRest q.depth
  source : IsBareWord q.source
  slug : IsBareWord q.slug
  ref : ∀ ref ∈ q.ref, IsWordRest ref
  commit : ∀ commit ∈ q.commit, IsBareWord commit

/-- The branch is quoted, so that nothing is asked of it. -/
theorem reads_clone_iff (depth source slug : String) (branch : Option String) :
    Reads ("git clone --depth=" ++ depth ++
        (branch.map fun branch => " --branch=" ++ shellQuote branch).getD "" ++
        " " ++ source ++ " " ++ slug)
      ([plain "git", plain "clone", plain ("--depth=" ++ depth)] ++
        (branch.map fun branch => plain ("--branch=" ++ branch)).toList ++
        [plain source, plain slug]) ↔
    IsWordRest depth ∧ IsBareWord source ∧ IsBareWord slug := by
  have hh : Reader.read {} "git clone --depth=" =
      ⟨.bare, [plain "git", plain "clone"], some (plain "--depth=")⟩ := by decide
  have front (s : String) (ws : List Word) :=
    reads_rest_iff (by decide) (by decide) hh depth s ws
  cases branch with
  | none =>
    rw [← reads_pair_iff, ← front]
    simp [String.append_assoc]
  | some branch =>
    have ho := (spells_option "--branch=" branch (by decide) (by decide)).reads_plain
    have hs : " --branch=" = " " ++ "--branch=" := by decide
    have option : _ ↔ Reads (source ++ " " ++ slug) [plain source, plain slug] := ho.blank_iff
    rw [← reads_pair_iff, ← option, ← front, Option.map_some, Option.getD_some, hs]
    simp only [String.append_assoc, List.append_assoc, Option.map_some, Option.toList_some]
    rfl

theorem reads_enter_iff (slug : String) :
    Reads ("cd " ++ slug) [plain "cd", plain slug] ↔ IsBareWord slug := by
  have hh : Reads "cd" [plain "cd"] := by decide
  exact hh.blank_iff.trans (reads_plain_iff slug)

/-- Neither the sign before a ref nor the colon after it changes what its characters mean. -/
theorem isBareWord_refspec_iff (ref : String) : IsBareWord ("+" ++ ref ++ ":") ↔ IsWordRest ref := by
  have hp : isOrdinary '+' = true := by decide
  have hc : isOrdinary ':' = true := by decide
  have hl : ("+" ++ ref ++ ":").toList = '+' :: (ref.toList ++ [':']) := by simp
  have inert : settle (('+' :: (ref.toList ++ [':'])).map glyph) =
      .literal '+' :: (settle (ref.toList.map glyph) ++ [.literal ':']) := by
    rw [List.map_cons, List.map_append]
    exact congrArg (List.cons _) (settle_append_literal (by decide) _)
  rw [isBareWord_iff, isWordRest_iff, isWordRest_iff, plain, hl, inert, ne_eq, ← String.toList_inj,
    hl]
  simp [hp, hc, plain]

theorem reads_fetch_iff (ref : String) :
    Reads ("git fetch origin +" ++ ref ++ ":")
      [plain "git", plain "fetch", plain "origin", plain ("+" ++ ref ++ ":")] ↔ IsWordRest ref := by
  have hh : Reads "git fetch origin" [plain "git", plain "fetch", plain "origin"] := by decide
  have ht : "git fetch origin +" ++ ref ++ ":" =
      "git fetch origin" ++ " " ++ ("+" ++ ref ++ ":") := by
    rw [← String.append_assoc, ← String.append_assoc]
    rfl
  rw [ht, ← isBareWord_refspec_iff, ← reads_plain_iff]
  exact hh.blank_iff

theorem reads_pick_iff (commit : String) :
    Reads ("git checkout -qf " ++ commit)
      [plain "git", plain "checkout", plain "-qf", plain commit] ↔ IsBareWord commit := by
  have hh : Reads "git checkout -qf" [plain "git", plain "checkout", plain "-qf"] := by decide
  exact hh.blank_iff.trans (reads_plain_iff commit)

theorem reads_commands_iff : (∀ x ∈ q.commands, Reads x.1 x.2) ↔ q.IsBare := by
  have submodules : ∀ x ∈ (if q.submodules then [
      ("git submodule init", [plain "git", plain "submodule", plain "init"]),
      ("git submodule update", [plain "git", plain "submodule", plain "update"])] else []),
      Reads x.1 x.2 := by
    split <;> decide
  unfold commands
  rw [List.forall_mem_append, List.forall_mem_append, List.forall_mem_append, List.forall_mem_cons,
    List.forall_mem_singleton, reads_clone_iff, reads_enter_iff]
  constructor
  · rintro ⟨⟨⟨⟨⟨hd, hs, -⟩, hg⟩, hr⟩, hc⟩, -⟩
    refine ⟨hd, hs, hg, fun ref h => ?_, fun commit h => ?_⟩
    · exact (reads_fetch_iff ref).mp (hr (_, _) (by simp [Option.mem_def.mp h]))
    · exact (reads_pick_iff commit).mp (hc (_, _) (by simp [Option.mem_def.mp h]))
  · rintro ⟨hd, hs, hg, hr, hc⟩
    refine ⟨⟨⟨⟨⟨hd, hs, hg⟩, hg⟩, fun x hx => ?_⟩, fun x hx => ?_⟩, submodules⟩
    · obtain ⟨ref, h, rfl⟩ := Option.map_eq_some_iff.mp (Option.mem_toList.mp hx)
      exact (reads_fetch_iff ref).mpr (hr ref h)
    · obtain ⟨commit, h, rfl⟩ := Option.map_eq_some_iff.mp (Option.mem_toList.mp hx)
      exact (reads_pick_iff commit).mpr (hc commit h)

end Request

theorem texts_steps (clone enter fetch pick : Command) (c₁ c₂ c₃ : Prop)
    [Decidable c₁] [Decidable c₂] [Decidable c₃] :
    (Script.commands (.fold "git.checkout" [.command clone] :: .command enter ::
      ((if c₁ then [.fold "git.fetch" [.command fetch]] else []) ++
        ((if c₂ then [.command pick] else []) ++
          if c₃ then submoduleNodes else [])))).map Command.text =
    [clone.text, enter.text] ++ (if c₁ then [fetch.text] else []) ++
      (if c₂ then [pick.text] else []) ++
      if c₃ then ["git submodule init", "git submodule update"] else [] := by
  simp only [Script.commands, Node.commands, Script.commands_append, apply_ite Script.commands]
  split <;> split <;> split <;> rfl

namespace Request

theorem cloneCommand_eq (depth branch source slug : Setting) :
    cloneCommand depth branch source slug = "git clone --depth=" ++ depth.written .sealed ++
      ((given branch).map fun branch => " --branch=" ++ shellQuote branch).getD "" ++
      " " ++ source.written .sealed ++ " " ++ slug.written .sealed := by
  unfold cloneCommand given
  split <;> rfl

theorem map_fst_given {α β : Type} (s : Setting) (f : String → α × β) :
    ((given s).map f).toList.map Prod.fst =
      if s.isSet then [(f (s.written .sealed)).1] else [] := by
  unfold given
  split <;> rfl

theorem texts_ofBuild (b : Build) (git : Entries) :
    (ofBuild b git).commands.map Prod.fst =
      let repository := b.payload.repository
      let slug := Entries.get repository "slug"
      let source := Entries.get repository "source_url"
      let ref := Entries.get b.payload.job "ref"
      let commit := Entries.get b.payload.job "commit"
      [cloneCommand ((Entries.get? git (.text "depth")).getD (.int 50))
          (Entries.get b.payload.job "branch")
          (if source.isSet then source
            else .text ("https://github.com/" ++ slug.written .sealed ++ ".git")) slug,
        "cd " ++ slug.written .sealed] ++
      (if ref.isSet then ["git fetch origin +" ++ ref.written .sealed ++ ":"] else []) ++
      (if commit.isSet then ["git checkout -qf " ++ commit.written .sealed] else []) ++
      if ((Entries.get? git (.text "submodules")).getD (.bool true)).isSet then
        ["git submodule init", "git submodule update"] else [] := by
  have source (s : Setting) (t : String) :
      (given s).getD t = (if s.isSet then s else .text t).written .sealed := by
    unfold given
    split <;> rfl
  simp only [cloneCommand_eq, commands, ofBuild, List.map_append, map_fst_given, source,
    apply_ite (List.map Prod.fst)]
  rfl

end Request

theorem writes_request {b : Build} {s : Setting} {git : Entries}
    (hs : (Entries.get b.payload.repository "slug").isSet) (hg : b.setting "git" = .ok s)
    (he : (if s.isSet then s.entries else .ok []) = .ok git) :
    ∃ ns js, Writes (checkout b) () ns js ∧
      (Script.commands ns).map Command.text = (Request.ofBuild b git).commands.map Prod.fst := by
  have hn : ¬(!(Entries.get b.payload.repository "slug").isSet) = true := by simp [hs]
  rw [Request.texts_ofBuild]
  unfold checkout
  simp only [if_neg hn, hg, Drafting.read, pure_bind]
  rw [he]
  simp only [pure_bind]
  -- a strategy other than a clone is noted, and a clone is made all the same
  split
  · exact ⟨_, _, writes_steps _ _ _ _ _ _ _, texts_steps _ _ _ _ _ _ _⟩
  · exact ⟨_, _, (writes_note _).bind (writes_steps _ _ _ _ _ _ _), texts_steps _ _ _ _ _ _ _⟩

/-- A checkout writes the commands of what it is asked for, and a shell reads them as they are meant
just if every value but the branch is bare. -/
theorem checkout_read_as_meant_iff {b : Build} {s : Setting} {git : Entries}
    (hs : (Entries.get b.payload.repository "slug").isSet) (hg : b.setting "git" = .ok s)
    (he : (if s.isSet then s.entries else .ok []) = .ok git) :
    ∃ ns js, Writes (checkout b) () ns js ∧
      (Script.commands ns).map Command.text = (Request.ofBuild b git).commands.map Prod.fst ∧
      ((∀ x ∈ (Request.ofBuild b git).commands, Reads x.1 x.2) ↔
        (Request.ofBuild b git).IsBare) := by
  obtain ⟨ns, js, hw, ht⟩ := writes_request hs hg he
  exact ⟨ns, js, hw, ht, (Request.ofBuild b git).reads_commands_iff⟩

/-- All values are given, and only the branch holds what means anything to a shell. -/
theorem checkout_read_as_meant_pull :
    ∃ ns js, Writes (checkout ⟨.mapping [(.text "git", .mapping [(.text "depth", .int 3)])], {
        repository := [(.text "slug", .text "octo/app"),
          (.text "source_url", .text "git@example.com:octo/app.git")]
        job := [(.text "branch", .text "it's; x"), (.text "ref", .text "refs/pull/7/merge"),
          (.text "commit", .text "abc123")] }, []⟩) () ns js ∧
      ((Script.commands ns).map Command.text).map shellWords = [
        [plain "git", plain "clone", plain "--depth=3", plain "--branch=it's; x",
          plain "git@example.com:octo/app.git", plain "octo/app"],
        [plain "cd", plain "octo/app"],
        [plain "git", plain "fetch", plain "origin", plain "+refs/pull/7/merge:"],
        [plain "git", plain "checkout", plain "-qf", plain "abc123"],
        [plain "git", plain "submodule", plain "init"],
        [plain "git", plain "submodule", plain "update"]] := by
  obtain ⟨ns, js, hw, ht, hi⟩ := checkout_read_as_meant_iff
    (b := ⟨.mapping [(.text "git", .mapping [(.text "depth", .int 3)])], {
      repository := [(.text "slug", .text "octo/app"),
        (.text "source_url", .text "git@example.com:octo/app.git")]
      job := [(.text "branch", .text "it's; x"), (.text "ref", .text "refs/pull/7/merge"),
        (.text "commit", .text "abc123")] }, []⟩)
    (s := .mapping [(.text "depth", .int 3)]) (by decide) rfl rfl
  refine ⟨ns, js, hw, ?_⟩
  rw [ht, List.map_map]
  refine (List.map_congr_left fun x hx => (hi.mpr ?_ x hx).shellWords_eq).trans (by decide +kernel)
  exact ⟨by decide +kernel, by decide +kernel, by decide +kernel, by decide +kernel,
    by decide +kernel⟩

/-- What follows a semicolon in a ref is a command of its own. -/
theorem ref_begins_command :
    "git fetch origin +refs/heads/a;b:" ∈ (Script.commands (alone (checkout
      ⟨.mapping [(.text "git", .mapping [(.text "depth", .int 50)])], {
        repository := [(.text "slug", .text "octo/app")]
        job := [(.text "ref", .text "refs/heads/a;b")] }, []⟩))).map Command.text ∧
    ¬Reads "git fetch origin +refs/heads/a;b:"
      [plain "git", plain "fetch", plain "origin", plain "+refs/heads/a;b:"] ∧
    shellWords "git fetch origin +refs/heads/a;b:" =
      [plain "git", plain "fetch", plain "origin",
        plain "+refs/heads/a" ++ .active ';' :: plain "b:"] := by
  refine ⟨?_, by decide +kernel, by decide +kernel⟩
  decide +kernel

end BuildScript.Shell

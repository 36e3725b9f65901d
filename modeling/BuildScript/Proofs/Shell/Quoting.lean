import BuildScript.Capability.Addon
import BuildScript.Capability.Checkout
import BuildScript.Capability.DirectoryCache
import BuildScript.Proofs.Draft.Steady
import BuildScript.Proofs.Shell.Layout
import BuildScript.Proofs.Text.Words

/-! # Quoted texts in scripts

Wherever the compiler quotes a text, the lines that it writes are read back as words of which one
is that text, or ends with it, and the shell acts on none of its characters. This does not depend
on the level of the lines.
-/

namespace BuildScript.Shell

open Capability Drafting Text

def Placed.words (p : Placed) : List Word := shellWords (joinLines p.lines)

theorem Placed.words_eq (p : Placed) : p.words = shellWords p.piece.text := by
  rw [words, joinLines_lines, Placed.text, indented]
  split
  · rfl
  · exact shellWords_blanks _ _

/-- The words that print a message. Only the colour is left to the shell. -/
def printer : Option Color → List Word
  | none => [plain "echo"]
  | some color => [plain "printf",
      .active '$' :: plain ("\x7bANSI_" ++ upper color.name ++ "\x7d%s") ++
        .active '$' :: plain "\x7bANSI_RESET\x7d\\n"]

theorem shellWords_messageLine (message : String) (color : Option Color) :
    shellWords (messageLine message (color.map Color.name)) = printer color ++ [plain message] := by
  cases color with
  | none =>
    have he : Reads "echo" (printer none) := by decide
    exact (he.quoted message).shellWords_eq
  | some color =>
    let head := "printf \"$\x7bANSI_" ++ upper color.name ++ "\x7d%s$\x7bANSI_RESET\x7d\\n\""
    have hp : Reads head (printer (some color)) := by cases color <;> decide +kernel
    have ht : messageLine message (some color.name) = head ++ " " ++ shellQuote message := by
      rw [messageLine.eq_def]
      simp only [head, String.append_assoc]
      rfl
    rw [Option.map_some, ht]
    exact (hp.quoted message).shellWords_eq

theorem words_of_reads {level : Int} {piece : Piece} {text : String} (head : String)
    (ws : List Word) (hr : Reads head ws) (ht : piece.text = head ++ " " ++ shellQuote text) :
    Placed.words ⟨level, piece⟩ = ws ++ [plain text] := by
  rw [Placed.words_eq, ht]
  exact (hr.quoted text).shellWords_eq

theorem words_retry (level : Int) (text : String) :
    Placed.words ⟨level, .retry text⟩ = [plain "cibuild_retry", plain "eval", plain text] :=
  words_of_reads "cibuild_retry eval" [plain "cibuild_retry", plain "eval"] (by decide) rfl

theorem words_foldStart (level : Int) (label : String) :
    Placed.words ⟨level, .foldStart label⟩ =
      [plain "cibuild_fold", plain "start", plain label] :=
  words_of_reads "cibuild_fold start" [plain "cibuild_fold", plain "start"] (by decide) rfl

theorem words_foldEnd (level : Int) (label : String) :
    Placed.words ⟨level, .foldEnd label⟩ = [plain "cibuild_fold", plain "end", plain label] :=
  words_of_reads "cibuild_fold end" [plain "cibuild_fold", plain "end"] (by decide) rfl

theorem spells_option (name value : String) (hs : name.toList.all isShellSafe = true)
    (hn : name ≠ "") : Spells (name ++ shellQuote value) (plain (name ++ value)) := by
  rw [plain_append]
  exact (spells_of_safe hs hn).append (spells_shellQuote value)

theorem safe_decimal (n : Int) : (decimal n).toList.all isShellSafe = true ∧ decimal n ≠ "" := by
  have digits : (Nat.toDigits 10 n.natAbs).all isShellSafe = true := by
    refine List.all_eq_true.mpr fun c hc => ?_
    have hd := Nat.isDigit_of_mem_toDigits (by decide) (by decide) hc
    simp [isShellSafe, Char.isAlphanum, hd]
  have sign : isShellSafe '-' = true := by decide
  rw [ne_eq, ← String.toList_inj]
  unfold decimal
  split <;> simp [String.toList_append, digits, sign, Nat.toDigits_ne_nil]

section Cache

variable (options : Entries) (action : CacheAction) (slug : String)

/-- The parts of a cache command before its directories, each as it is written and as it is read. -/
def cacheParts : List (String × String) :=
  [("cibuild-cache", "cibuild-cache"), (action.name, action.name),
    ("--slug=" ++ shellQuote slug, "--slug=" ++ slug)] ++
  let url := Entries.get options "url"
  if url.isSet then
    [("--url=" ++ shellQuote (url.written .loose), "--url=" ++ url.written .loose)] else []

theorem spells_cacheParts : ∀ x ∈ cacheParts options action slug, Spells x.1 (plain x.2) := by
  have program : Spells "cibuild-cache" (plain "cibuild-cache") :=
    spells_of_safe (by decide) (by decide)
  have verb : Spells action.name (plain action.name) := by
    cases action <;> exact spells_of_safe (by decide) (by decide)
  have archive := spells_option "--slug=" slug (by decide) (by decide)
  refine List.forall_mem_append.mpr ⟨?_, ?_⟩
  · exact List.forall_mem_cons.mpr ⟨program, List.forall_mem_cons.mpr ⟨verb,
      List.forall_mem_singleton.mpr archive⟩⟩
  · dsimp only
    split
    · exact List.forall_mem_singleton.mpr (spells_option "--url=" _ (by decide) (by decide))
    · exact List.forall_mem_nil _

theorem shellWords_cacheCommand (directories : List String) :
    shellWords (cacheCommand options action slug directories) =
      ((cacheParts options action slug).map fun x => plain x.2) ++
        shellWords (" ".intercalate directories) := by
  have hn : cacheParts options action slug ≠ [] := List.cons_ne_nil _ _
  rw [← shellWords_intercalate hn (spells_cacheParts options action slug)]
  unfold cacheCommand cacheParts
  dsimp only
  split <;> rfl

def cacheFront : CacheAction → List Node
  | .fetch => [.command { text := messageLine "Setting up build cache" (some Color.green.name) }]
  | .push => []

theorem writes_useCache {directories : Setting} {members : List Setting} (hd : directories.isSet)
    (hm : directories.members = .ok members) :
    Writes (useCache options action slug directories) () [.fold ("cache." ++ action.name)
      (cacheFront action ++ [.command {
        text := cacheCommand options action slug (members.map (Setting.written .loose))
        echo := true, timing := true, secure := hasCacheUrl options }])] [] := by
  have hn : ¬(!directories.isSet) = true := by simp [hd]
  unfold useCache
  rw [if_neg hn, hm]
  cases action with
  | fetch =>
    exact ((writes_command _ "").bind
      ((Writes.pure members).bind (writes_command _ ""))).fold _
  | push => exact ((Writes.pure members).bind (writes_command _ "")).fold _

end Cache

section Clone

/-- Unless something is left open before it, the branch comes back as the rest of a word. -/
theorem shellWords_cloneCommand {depth branch : Setting} {front : List Word} (source slug : Setting)
    (hd : Reads ("git clone --depth=" ++ depth.written .sealed) front) (hb : branch.isSet) :
    shellWords (cloneCommand depth branch source slug) =
      front ++ [plain ("--branch=" ++ branch.written .sealed)] ++
        shellWords (source.written .sealed ++ " " ++ slug.written .sealed) := by
  have ho := (spells_option "--branch=" (branch.written .sealed) (by decide)
    (by decide)).reads_plain
  have hs (t : String) : " --branch=" ++ t = " " ++ ("--branch=" ++ t) := by
    rw [← String.append_assoc]
    rfl
  rw [← (hd.blank ho).shellWords_blank]
  delta cloneCommand
  simp only [if_pos hb, String.append_assoc]
  exact congrArg (fun t => shellWords ("git clone --depth=" ++ (depth.written .sealed ++ t))) (hs _)

theorem reads_cloneDepth (n : Int) :
    Reads ("git clone --depth=" ++ (Setting.int n).written .sealed)
      [plain "git", plain "clone", plain ("--depth=" ++ decimal n)] := by
  obtain ⟨hs, hn⟩ := safe_decimal n
  have command : Reads "git clone" [plain "git", plain "clone"] := by decide
  have option := (spells_of_safe (s := "--depth=") (by decide) (by decide)).append
    (spells_of_safe hs hn)
  rw [← plain_append] at option
  have ht : "git clone --depth=" = "git clone" ++ " " ++ "--depth=" := by decide
  rw [ht, String.append_assoc]
  exact command.blank option.reads_plain

def submoduleNodes : List Node := [.conditional [⟨some "[[ -f .gitmodules ]]", [
  .fold "git.submodule" [
    .command { text := "git submodule init", echo := true },
    .command { text := "git submodule update", echo := true, asserted := true, retry := true }]]⟩]]

theorem writes_submodules : Writes submodules () submoduleNodes [] :=
  (((writes_command _ "").bind (writes_command _ "")).fold _).arms.conditional _

theorem writes_steps (clone enter fetch pick : Command) (c₁ c₂ c₃ : Prop)
    [Decidable c₁] [Decidable c₂] [Decidable c₃] : Writes (do
      command clone "git.checkout"
      command enter
      if c₁ then
        command fetch "git.fetch"
      if c₂ then
        command pick
      if c₃ then
        submodules) () (.fold "git.checkout" [.command clone] :: .command enter ::
      ((if c₁ then [.fold "git.fetch" [.command fetch]] else []) ++
        ((if c₂ then [.command pick] else []) ++ if c₃ then submoduleNodes else []))) [] := by
  have last : Writes (if c₃ then submodules else pure ()) ()
      (if c₃ then submoduleNodes else []) [] := by
    split
    · exact writes_submodules
    · exact Writes.pure ()
  have middle := (writes_command pick "").when (c := c₂) (k := fun _ =>
    if c₃ then submodules else pure ()) last
  have later := (writes_command fetch "git.fetch").when (c := c₁) (k := fun _ => if c₂ then do
    command pick
    if c₃ then submodules else pure () else if c₃ then submodules else pure ()) middle
  exact (writes_command clone "git.checkout").bind ((writes_command enter "").bind later)

/-- The clone stands in a fold of its own before the rest of the checkout, and is retried. -/
theorem writes_checkout {b : Build} {s : Setting} {git : Entries}
    (hs : (Entries.get b.payload.repository "slug").isSet) (hg : b.setting "git" = .ok s)
    (he : (if s.isSet then s.entries else .ok []) = .ok git) :
    ∃ source more js, Writes (checkout b) () (.fold "git.checkout" [.command {
      text := cloneCommand ((Entries.get? git (.text "depth")).getD (.int 50))
        (Entries.get b.payload.job "branch") source (Entries.get b.payload.repository "slug")
      echo := true, asserted := true, retry := true }] :: more) js := by
  have hn : ¬(!(Entries.get b.payload.repository "slug").isSet) = true := by simp [hs]
  unfold checkout
  simp only [if_neg hn, hg, Drafting.read, pure_bind]
  rw [he]
  simp only [pure_bind]
  -- a strategy other than a clone is noted, and a clone is made all the same
  split
  · exact ⟨_, _, _, writes_steps _ _ _ _ _ _ _⟩
  · exact ⟨_, _, _, (writes_note _).bind (writes_steps _ _ _ _ _ _ _)⟩

end Clone

section Addons

/-- Host names are shell text, but the line that they stand in is quoted. -/
theorem writes_writeHosts {names : List String} (h : " ".intercalate names ≠ "") :
    Writes (Addon.writeHosts names) () [.command {
      text := "echo " ++ shellQuote ("127.0.0.1 " ++ " ".intercalate names) ++
        " | sudo tee -a /etc/hosts > /dev/null"
      echo := true }] [] := by
  unfold Addon.writeHosts
  simp only [if_neg h]
  exact writes_command _ ""

theorem shellWords_hostsLine (line : String) :
    shellWords ("echo " ++ shellQuote line ++ " | sudo tee -a /etc/hosts > /dev/null") =
      [plain "echo", plain line] ++ shellWords "| sudo tee -a /etc/hosts > /dev/null" := by
  have he : Reads "echo" [plain "echo"] := by decide
  have ht : " | sudo tee -a /etc/hosts > /dev/null" =
      " " ++ "| sudo tee -a /etc/hosts > /dev/null" := by decide +kernel
  rw [ht, ← String.append_assoc]
  exact (he.quoted line).shellWords_blank _

theorem writes_writePackages {packages : List String} (h : packages ≠ []) :
    Writes (Addon.writePackages packages) () [.fold "apt" [
      .command { text := messageLine "Installing APT Packages" (some Color.yellow.name) },
      .command {
        text := "sudo -E apt-get -yq --no-install-suggests --no-install-recommends install " ++
          " ".intercalate (packages.map shellQuote)
        echo := true, asserted := true, retry := true, timing := true }]] [] := by
  unfold Addon.writePackages
  simp only [if_neg (quoted_ne_empty h)]
  exact ((writes_command _ "").bind (writes_command _ "")).fold "apt"

theorem shellWords_install (packages : List String) :
    shellWords ("sudo -E apt-get -yq --no-install-suggests --no-install-recommends install " ++
        " ".intercalate (packages.map shellQuote)) =
      [plain "sudo", plain "-E", plain "apt-get", plain "-yq", plain "--no-install-suggests",
        plain "--no-install-recommends", plain "install"] ++ packages.map plain := by
  have hi : Reads "sudo -E apt-get -yq --no-install-suggests --no-install-recommends install"
      [plain "sudo", plain "-E", plain "apt-get", plain "-yq", plain "--no-install-suggests",
        plain "--no-install-recommends", plain "install"] := by decide +kernel
  exact (hi.blank (reads_quoted packages)).shellWords_eq

end Addons

/-- What the shell reads where the compiler has quoted a text, at one level. -/
structure ReadBack (level : Int) : Prop where
  /-- A message is the one argument of what prints it. -/
  message (text : String) (color : Option Color) :
    Placed.words ⟨level, .run (messageLine text (color.map Color.name))⟩ =
      printer color ++ [plain text]
  preview (c : Command) (h : c.echo) :
    .preview ("$ " ++ c.shown) c.color ∈ c.pieces ∧
      Placed.words ⟨level, .preview ("$ " ++ c.shown) c.color⟩ =
        printer c.color ++ [plain ("$ " ++ c.shown)]
  exportPreview (e : Export) (h : e.echo) :
    .preview ("$ export " ++ e.key ++ "=" ++ e.shown) none ∈ e.pieces ∧
      Placed.words ⟨level, .preview ("$ export " ++ e.key ++ "=" ++ e.shown) none⟩ =
        [plain "echo", plain ("$ export " ++ e.key ++ "=" ++ e.shown)]
  retry (c : Command) (h : c.retry) :
    .retry c.text ∈ c.pieces ∧
      Placed.words ⟨level, .retry c.text⟩ = [plain "cibuild_retry", plain "eval", plain c.text]
  fold (label : String) (body : List Node) :
    (∃ inner, Node.pieces level (.fold label body) =
      ⟨level, .foldStart label⟩ :: inner ++ [⟨level, .foldEnd label⟩]) ∧
    Placed.words ⟨level, .foldStart label⟩ = [plain "cibuild_fold", plain "start", plain label] ∧
    Placed.words ⟨level, .foldEnd label⟩ = [plain "cibuild_fold", plain "end", plain label]
  /-- The directories after the quoted options are shell text. -/
  cache (options : Entries) (action : CacheAction) (slug : String) (directories : Setting)
    (members : List Setting) (hd : directories.isSet) (hm : directories.members = .ok members) :
    ∃ text, ⟨level + 1, .run text⟩ ∈
        bodyPieces level (alone (useCache options action slug directories)) ∧
      Placed.words ⟨level + 1, .run text⟩ =
        [plain "cibuild-cache", plain action.name, plain ("--slug=" ++ slug)] ++
          (if (Entries.get options "url").isSet then
            [plain ("--url=" ++ (Entries.get options "url").written .loose)] else []) ++
          shellWords (" ".intercalate (members.map (Setting.written .loose)))
  /-- A clone is retried, so that its text is read twice. The depth is shell text. -/
  clone (b : Build) (s : Setting) (git : Entries) (front : List Word)
    (hs : (Entries.get b.payload.repository "slug").isSet) (hg : b.setting "git" = .ok s)
    (he : (if s.isSet then s.entries else .ok []) = .ok git)
    (hb : (Entries.get b.payload.job "branch").isSet)
    (hd : Reads ("git clone --depth=" ++
      ((Entries.get? git (.text "depth")).getD (.int 50)).written .sealed) front) :
    ∃ text back, ⟨level + 1, .retry text⟩ ∈ bodyPieces level (alone (checkout b)) ∧
      Placed.words ⟨level + 1, .retry text⟩ =
        [plain "cibuild_retry", plain "eval", plain text] ∧
      shellWords text = front ++
        [plain ("--branch=" ++ (Entries.get b.payload.job "branch").written .sealed)] ++ back
  cloneDepth (n : Int) :
    Reads ("git clone --depth=" ++ (Setting.int n).written .sealed)
      [plain "git", plain "clone", plain ("--depth=" ++ decimal n)]
  packages (packages : List String) (h : packages ≠ []) :
    ∃ text, ⟨level + 1, .retry text⟩ ∈ bodyPieces level (alone (Addon.aptPackages.write packages)) ∧
      Placed.words ⟨level + 1, .retry text⟩ =
        [plain "cibuild_retry", plain "eval", plain text] ∧
      shellWords text =
        [plain "sudo", plain "-E", plain "apt-get", plain "-yq", plain "--no-install-suggests",
          plain "--no-install-recommends", plain "install"] ++ packages.map plain
  hosts (names : List String) (h : " ".intercalate names ≠ "") :
    ∃ text, ⟨level, .run text⟩ ∈ bodyPieces level (alone (Addon.hosts.write names)) ∧
      Placed.words ⟨level, .run text⟩ =
        [plain "echo", plain ("127.0.0.1 " ++ " ".intercalate names)] ++
          shellWords "| sudo tee -a /etc/hosts > /dev/null"

theorem quoted_texts_read_back (level : Int) : ReadBack level where
  message text color := (Placed.words_eq _).trans (shellWords_messageLine text color)
  preview c h :=
    ⟨by simp [Command.pieces, h], (Placed.words_eq _).trans (shellWords_messageLine _ c.color)⟩
  exportPreview e h :=
    ⟨by simp [Export.pieces, h], (Placed.words_eq _).trans (shellWords_messageLine _ none)⟩
  retry c h := ⟨by simp [Command.pieces, h], words_retry level c.text⟩
  fold label body := ⟨⟨_, rfl⟩, words_foldStart level label, words_foldEnd level label⟩
  cache options action slug directories members hd hm := by
    rw [(writes_useCache options action slug hd hm).alone_eq]
    refine ⟨cacheCommand options action slug (members.map (Setting.written .loose)),
      by simp [bodyPieces, bodyPieces_append, Node.pieces, Command.pieces], ?_⟩
    rw [Placed.words_eq]
    refine (shellWords_cacheCommand options action slug _).trans ?_
    unfold cacheParts
    dsimp only
    split <;> rfl
  clone b s git front hs hg he hb hd := by
    obtain ⟨source, more, js, hw⟩ := writes_checkout hs hg he
    have ht := shellWords_cloneCommand source (Entries.get b.payload.repository "slug") hd hb
    rw [hw.alone_eq]
    exact ⟨_, _, by simp [bodyPieces, Node.pieces, Command.pieces], words_retry _ _, ht⟩
  cloneDepth n := reads_cloneDepth n
  packages packages h := by
    have hw : alone (Addon.aptPackages.write packages) = _ := (writes_writePackages h).alone_eq
    rw [hw]
    exact ⟨_, by simp [bodyPieces, Node.pieces, Command.pieces], words_retry _ _,
      shellWords_install packages⟩
  hosts names h := by
    have hw : alone (Addon.hosts.write names) = _ := (writes_writeHosts h).alone_eq
    rw [hw]
    exact ⟨_, by simp [bodyPieces, Node.pieces, Command.pieces],
      (Placed.words_eq _).trans (shellWords_hostsLine _)⟩

/-- A branch and packages with single quotes and blanks. -/
theorem quoted_texts_read_back_deep :
    (∃ text back, ⟨3, .retry text⟩ ∈ bodyPieces 2 (alone (checkout ⟨.mapping [], {
        repository := [(.text "slug", .text "a/b")]
        job := [(.text "branch", .text "it's")] }, []⟩)) ∧
      shellWords text =
        [plain "git", plain "clone", plain "--depth=50", plain "--branch=it's"] ++ back) ∧
    ∃ text, ⟨3, .retry text⟩ ∈ bodyPieces 2 (alone (Addon.aptPackages.write ["it's", "a b"])) ∧
      shellWords text =
        [plain "sudo", plain "-E", plain "apt-get", plain "-yq", plain "--no-install-suggests",
          plain "--no-install-recommends", plain "install", plain "it's", plain "a b"] := by
  have back := quoted_texts_read_back 2
  obtain ⟨text, hm, -, ht⟩ := back.packages ["it's", "a b"] (List.cons_ne_nil _ _)
  obtain ⟨clone, after, hc, -, hw⟩ := back.clone ⟨.mapping [], {
    repository := [(.text "slug", .text "a/b")], job := [(.text "branch", .text "it's")] }, []⟩
    .null [] _ (by decide) rfl rfl (by decide) (back.cloneDepth 50)
  exact ⟨⟨clone, after, hc, hw⟩, text, hm, ht⟩

end BuildScript.Shell

import BuildScript.Proofs.Shell.Quoting
import BuildScript.Proofs.Stage.Completed

/-! # The directory cache

The setup stage fetches the cached directories and the exit hook pushes them. Both read the same
settings, so that a completed build holds both commands or neither, and the commands differ in the
action alone.
-/

namespace BuildScript

open Shell Drafting Capability

namespace Shell

mutual

/-- The bodies of the folds with a label, at any depth. -/
def Node.folds (label : String) : Node → List (List Node)
  | .fold name body => (if name = label then [body] else []) ++ Script.folds label body
  | .conditional arms => Branch.folds label arms
  | .command _ | .assign _ | .raw _ => []

def Script.folds (label : String) : List Node → List (List Node)
  | [] => []
  | n :: rest => n.folds label ++ Script.folds label rest

def Branch.folds (label : String) : List Branch → List (List Node)
  | [] => []
  | ⟨_, body⟩ :: rest => Script.folds label body ++ Branch.folds label rest

end

variable {label : String} {ns : List Node}

theorem Script.folds_append (label : String) (ns ms : List Node) :
    Script.folds label (ns ++ ms) = Script.folds label ns ++ Script.folds label ms := by
  induction ns with
  | nil => rfl
  | cons n rest ih => rw [List.cons_append, Script.folds, Script.folds, ih, List.append_assoc]

theorem Script.folds_of_commands (h : ∀ n ∈ ns, ∃ c, n = .command c) :
    Script.folds label ns = [] := by
  induction ns with
  | nil => rfl
  | cons n rest ih =>
    obtain ⟨⟨c, rfl⟩, hr⟩ := List.forall_mem_cons.mp h
    exact ih hr

end Shell

namespace Capability

def cacheUse (slug : String) (address : Option String) (directories : List String)
    (action : CacheAction) : Command where
  text := " ".intercalate (["cibuild-cache", action.name, "--slug=" ++ Text.shellQuote slug] ++
    (address.map fun url => "--url=" ++ Text.shellQuote url).toList ++ directories)
  echo := true
  timing := true
  secure := address.isSome

def cacheAddress (options : Entries) : Option String :=
  if hasCacheUrl options then some ((Entries.get options "url").written .loose) else none

theorem cacheUse_eq (options : Entries) (action : CacheAction) (slug : String)
    (directories : List String) :
    { text := cacheCommand options action slug directories, echo := true, timing := true,
      secure := hasCacheUrl options : Command } =
      cacheUse slug (cacheAddress options) directories action := by
  unfold cacheUse cacheAddress cacheCommand hasCacheUrl
  dsimp only
  cases (Entries.get options "url").isSet <;> rfl

/-- The commands of both actions are the same but for the name of the action. -/
theorem exists_rest_of_cacheUse (slug : String) (address : Option String)
    (directories : List String) :
    ∃ rest, ∀ action, (cacheUse slug address directories action).text =
      "cibuild-cache " ++ action.name ++ rest := by
  refine ⟨" " ++ " ".intercalate (["--slug=" ++ Text.shellQuote slug] ++
    (address.map fun url => "--url=" ++ Text.shellQuote url).toList ++ directories),
    fun action => ?_⟩
  simp only [cacheUse, List.cons_append, List.nil_append]
  rw [String.intercalate_cons_of_ne_nil (List.cons_ne_nil _ _),
    String.intercalate_cons_of_ne_nil (List.cons_ne_nil _ _)]
  simp only [String.append_assoc]
  rfl

def cacheNodes (action : CacheAction) (command : Command) : List Node :=
  [.fold ("cache." ++ action.name) (cacheFront action ++ [.command command])]

theorem folds_fetch (command : Command) :
    Script.folds "cache.fetch" (cacheNodes .fetch command) =
      [cacheFront .fetch ++ [.command command]] := by
  have commands : ∀ n ∈ cacheFront .fetch ++ [.command command], ∃ c, n = .command c :=
    List.forall_mem_cons.mpr ⟨⟨_, rfl⟩, List.forall_mem_singleton.mpr ⟨_, rfl⟩⟩
  rw [cacheNodes, Script.folds, Node.folds, if_pos (by decide), Script.folds_of_commands commands]
  rfl

end Capability

theorem Setting.written_texts (form : Setting.Form) (texts : List String) :
    (texts.map Setting.text).map (Setting.written form) = texts := by
  rw [List.map_map]
  exact List.map_id _

namespace Profile

variable {p : Profile} {b : Build}

theorem writes_useDirectoryCache_nil (p : Profile)
    (h : b.caches "directories" = .ok false ∨ b.caches "directories" = .ok true ∧
      b.cacheDirectories = .ok [] ∧ ∃ slug, p.cacheSlug b = .ok slug) (action : CacheAction) :
    Writes (useDirectoryCache b (p.support b) action) () [] [] := by
  rcases h with hc | ⟨hc, hd, slug, hs⟩
  · simp only [useDirectoryCache, hc, Drafting.read, pure_bind]
    exact Writes.pure ()
  · simp only [useDirectoryCache, support, hc, hd, hs, Drafting.read, pure_bind, if_true]
    exact Writes.pure ()

theorem writes_useDirectoryCache {slug : String} {directories : List String}
    (hc : b.caches "directories" = .ok true) (hs : p.cacheSlug b = .ok slug)
    (hd : b.cacheDirectories = .ok directories) (hn : directories ≠ []) (action : CacheAction) :
    Writes (useDirectoryCache b (p.support b) action) ()
      (cacheNodes action (cacheUse slug (cacheAddress b.cacheOptions) directories action)) [] := by
  have set : (Setting.list (directories.map .text)).isSet = true := by
    simpa [Setting.isSet] using hn
  have use := writes_useCache b.cacheOptions action slug set rfl
  rw [Setting.written_texts, cacheUse_eq] at use
  simp only [useDirectoryCache, support, hc, hd, hs, Drafting.read, pure_bind, if_true]
  exact use

/-- The cache is used by both actions or by none, or reading for them fails in the same way. -/
theorem useDirectoryCache_cases (p : Profile) (b : Build) :
    (∀ action, Writes (useDirectoryCache b (p.support b) action) () [] []) ∨
    (∃ slug directories, p.cacheSlug b = .ok slug ∧ ∀ action,
      Writes (useDirectoryCache b (p.support b) action) ()
        (cacheNodes action (cacheUse slug (cacheAddress b.cacheOptions) directories action)) []) ∨
    ∃ f, ∀ action, Fails (useDirectoryCache b (p.support b) action) f [] := by
  cases hc : b.caches "directories" with
  | error m =>
    refine .inr (.inr ⟨.misuse m, fun _ => ?_⟩)
    simp only [useDirectoryCache, hc, Drafting.read]
    exact (fails_throw _).bind
  | ok asked =>
    cases asked with
    | false => exact .inl (writes_useDirectoryCache_nil p (.inl hc))
    | true =>
      cases hs : p.cacheSlug b with
      | error m =>
        refine .inr (.inr ⟨.misuse m, fun _ => ?_⟩)
        simp only [useDirectoryCache, support, hc, hs, Drafting.read, pure_bind, if_true]
        exact (fails_throw _).bind
      | ok slug =>
        cases hd : b.cacheDirectories with
        | error m =>
          refine .inr (.inr ⟨.misuse m, fun _ => ?_⟩)
          simp only [useDirectoryCache, support, hc, hs, hd, Drafting.read, pure_bind, if_true]
          exact (fails_throw _).bind
        | ok directories =>
          by_cases hn : directories = []
          · exact .inl (writes_useDirectoryCache_nil p (.inr ⟨hc, hn ▸ hd, slug, hs⟩))
          · exact .inr (.inl ⟨slug, directories, rfl, writes_useDirectoryCache hc hs hd hn⟩)

/-- What the setup of a profile does after it has fetched the cache. -/
def afterCache (p : Profile) (b : Build) : Drafting Unit :=
  match p with
  | .base | .generic | .c | .cpp => pure ()
  | .haskell => Drafting.read (ghc b) >>= exportGhc
  | .java => Drafting.read (jdk b) >>= switchJdk
  | .android => do
    let version ← Drafting.read (jdk b)
    switchJdk version
    let components ← Drafting.read (androidList b "components")
    if !components.isEmpty then
      installComponents b components

theorem hook_setup (p : Profile) (b : Build) (s : Support) :
    p.hook b s .setup = (do
      useDirectoryCache b s .fetch
      p.afterCache b) := by
  cases p with
  | base | generic | c | cpp => exact (bind_pure (useDirectoryCache b s .fetch)).symm
  | haskell => rfl
  | java => rfl
  | android => simp only [hook, androidHook, jvmHook, sharedHook, afterCache, bind_assoc]

theorem steady_afterCache (p : Profile) (b : Build) :
    Steady AnyNodes Unstructural (p.afterCache b) := by
  cases p with
  | base | generic | c | cpp => exact .pure ()
  | haskell => exact .bind (.read _) steady_exportGhc
  | java => exact .bind (.read _) steady_switchJdk
  | android =>
    exact .bind (.read _) fun _ => .bind (steady_switchJdk _) fun _ =>
      .read_bind inferInstance fun _ hc => .ite (steady_installComponents b hc) (.pure ())

section Folds

variable {label : String} {ns : List Node} {js : Journal}

theorem folds_exportGhc {version : Option String} (h : Writes (exportGhc version) () ns js) :
    Script.folds label ns = [] := by
  cases version with
  | none => exact h.alone_eq ▸ rfl
  | some v => exact h.alone_eq ▸ rfl

theorem folds_switchJdk {version : Option String} (h : Writes (switchJdk version) () ns js) :
    Script.folds label ns = [] := by
  cases version with
  | none => exact h.alone_eq ▸ rfl
  | some v => exact h.alone_eq ▸ rfl

theorem command_of_installComponent {component : Setting}
    (h : Writes (installComponent b component) () ns js) : ∃ c, ns = [.command c] := by
  obtain ⟨licenses, -, h⟩ := h.of_read_bind
  obtain ⟨text, -, h⟩ := h.of_read_bind
  exact ⟨_, h.alone_eq.symm.trans (writes_command _ "").alone_eq⟩

theorem folds_installComponents {components : List Setting} (hl : label ≠ "android.install")
    (h : Writes (installComponents b components) () ns js) : Script.folds label ns = [] := by
  have hs (component : Setting) : Steady AnyNodes Unstructural (installComponent b component) :=
    steady_installComponent inferInstance fun _ => inferInstance
  have hm : Steady AnyNodes Unstructural (message "Installing Android dependencies") :=
    .message _ _
  have body := Steady.bind hm fun _ => Steady.forM fun component (_ : component ∈ components) =>
    hs component
  cases body with
  | fails hf _ => exact absurd (hf.fold _) h.not_fails
  | @writes _ ms _ hw _ =>
    have fold : ns = [.fold "android.install" ms] :=
      h.alone_eq.symm.trans (hw.fold "android.install").alone_eq
    obtain ⟨_, _, _, hm, hr, parts⟩ := Steady.of_bind hm (fun _ => .forM fun component _ =>
      hs component) hw
    have commands : ∀ n ∈ ms, ∃ c, n = .command c := by
      rcases Steady.forM_writes_or_fails (l := components) fun component _ => hs component with
        ⟨each, _, all⟩ | ⟨f, _, hf, _⟩
      · rw [parts, all.alone_eq]
        refine List.forall_mem_append.mpr ⟨?_, ?_⟩
        · exact List.forall_mem_singleton.mpr ⟨_, rfl⟩
        · intro n hn
          obtain ⟨component, hc, hn⟩ := List.mem_flatMap.mp hn
          obtain ⟨_, he⟩ := each component hc
          obtain ⟨c, hc⟩ := command_of_installComponent he
          rw [hc] at hn
          exact ⟨c, List.mem_singleton.mp hn⟩
      · exact absurd hf hr.not_fails
    rw [fold, Script.folds, Node.folds, if_neg hl.symm, Script.folds_of_commands commands]
    rfl

theorem folds_afterCache (h : Writes (p.afterCache b) () ns js) :
    Script.folds "cache.fetch" ns = [] := by
  cases p with
  | base | generic | c | cpp => exact h.alone_eq ▸ rfl
  | haskell =>
    obtain ⟨version, -, h⟩ := h.of_read_bind
    exact folds_exportGhc h
  | java =>
    obtain ⟨version, -, h⟩ := h.of_read_bind
    exact folds_switchJdk h
  | android =>
    obtain ⟨version, -, h⟩ := h.of_read_bind
    have later : Steady AnyNodes Unstructural (do
        let components ← Drafting.read (androidList b "components")
        if !components.isEmpty then
          installComponents b components) :=
      .read_bind inferInstance fun _ hc => .ite (steady_installComponents b hc) (.pure ())
    have switch : Steady AnyNodes Unstructural (switchJdk version) := steady_switchJdk version
    obtain ⟨_, _, _, hs, hi, rfl⟩ := switch.of_bind (fun _ => later) h
    obtain ⟨components, -, hi⟩ := hi.of_read_bind
    rw [Script.folds_append, folds_switchJdk hs]
    split at hi
    · exact folds_installComponents (by decide) hi
    · rw [← hi.alone_eq]
      rfl

end Folds

/-- The setup of a profile uses the cache before all else. -/
theorem nodes_setup {js : Journal} (h : Writes (p.run b .setup) () (p.nodes b .setup) js) :
    p.nodes b .setup =
        alone (useDirectoryCache b (p.support b) .fetch) ++ alone (p.afterCache b) ∧
      (∃ ls, Writes (useDirectoryCache b (p.support b) .fetch) ()
        (alone (useDirectoryCache b (p.support b) .fetch)) ls) ∧
      ∃ ls, Writes (p.afterCache b) () (alone (p.afterCache b)) ls :=
  nodes_of_builtin rfl (hook_setup p b _) (steady_useDirectoryCache b (steady_support p b) .fetch)
    (steady_afterCache p b) h

theorem folds_setup {js : Journal} (h : Writes (p.run b .setup) () (p.nodes b .setup) js) :
    (∃ ls, Writes (useDirectoryCache b (p.support b) .fetch) ()
      (alone (useDirectoryCache b (p.support b) .fetch)) ls) ∧
    Script.folds "cache.fetch" (p.nodes b .setup) =
      Script.folds "cache.fetch" (alone (useDirectoryCache b (p.support b) .fetch)) := by
  obtain ⟨hs, hc, _, ha⟩ := nodes_setup h
  refine ⟨hc, ?_⟩
  rw [hs, Script.folds_append, folds_afterCache ha, List.append_nil]

end Profile

namespace Compiler

variable {r : Resolution} {co : Option Entries} {c : Compiled} {exit : Script}

/-- A completed build pushes the cache on exit if its setup fetches it, and it does both once. The
commands name the same archive, the same address and the same directories, they are shown and timed
alike, and they are kept from the log if they hold an address. -/
theorem cache_fetch_and_push_agree (h : (build r co).1 = .ok c) (hf : c.finish = some exit) :
    (exit = [] ↔ Script.folds "cache.fetch" (c.profile.nodes c.build .setup) = []) ∧
    (exit ≠ [] → ∃ slug address directories,
      c.profile.cacheSlug c.build = .ok slug ∧
      Script.folds "cache.fetch" (c.profile.nodes c.build .setup) =
        [cacheFront .fetch ++ [.command (cacheUse slug address directories .fetch)]] ∧
      exit = [.fold "cache.push" [.command (cacheUse slug address directories .push)]] ∧
      ∃ rest,
        (cacheUse slug address directories .fetch).text = "cibuild-cache " ++ "fetch" ++ rest ∧
        (cacheUse slug address directories .push).text = "cibuild-cache " ++ "push" ++ rest) := by
  have done := completed_of_finish h (by rw [hf]; rfl)
  obtain ⟨_, hs⟩ := done.stages .setup
  obtain ⟨_, he⟩ := done.exit
  obtain ⟨⟨_, fetch⟩, folds⟩ := Profile.folds_setup hs
  obtain rfl : exit = alone (c.profile.onExit c.build) := Option.some.inj (hf.symm.trans done.finish)
  rw [folds]
  rcases Profile.useDirectoryCache_cases c.profile c.build with
    none | ⟨slug, directories, archive, uses⟩ | ⟨f, fails⟩
  · have push : alone (c.profile.onExit c.build) = [] := (none .push).alone_eq
    rw [(none .fetch).alone_eq, push]
    exact ⟨iff_of_true rfl rfl, fun hn => absurd rfl hn⟩
  · have push : alone (c.profile.onExit c.build) = _ := (uses .push).alone_eq
    rw [(uses .fetch).alone_eq, push, folds_fetch]
    obtain ⟨rest, texts⟩ :=
      exists_rest_of_cacheUse slug (cacheAddress c.build.cacheOptions) directories
    exact ⟨iff_of_false (List.cons_ne_nil _ _) (List.cons_ne_nil _ _), fun _ =>
      ⟨slug, _, directories, archive, rfl, rfl, rest, texts .fetch, texts .push⟩⟩
  · exact absurd (fails .fetch) fetch.not_fails

def cachedSpec : Resolution where
  payload := {
    config := .ofList [
      (.text "language", .text "java"),
      (.text "cache", .mapping [(.text "directories", .list [.text "$HOME/.m2", .text "fetch"])])]
    cacheOptions := [(.text "url", .text "http://cache")] }

theorem cache_fetch_and_push_agree_named :
    ∃ c slug address directories, (build cachedSpec none).1 = .ok c ∧
      Script.folds "cache.fetch" (c.profile.nodes c.build .setup) =
        [cacheFront .fetch ++ [.command (cacheUse slug address directories .fetch)]] ∧
      c.finish = some [.fold "cache.push" [.command (cacheUse slug address directories .push)]] := by
  obtain ⟨c, hb, hc⟩ := exists_of_any (P := fun c => c.finish.any fun exit => !exit.isEmpty)
    (show (build cachedSpec none).1.toOption.any _ = true by decide +kernel)
  obtain ⟨exit, hf, he⟩ := (Option.any_eq_true _ _).mp hc
  obtain ⟨-, uses⟩ := cache_fetch_and_push_agree hb hf
  obtain ⟨slug, address, directories, -, fetch, push, -⟩ := uses (by simpa using he)
  exact ⟨c, slug, address, directories, hb, fetch, by rw [hf, push]⟩

end Compiler

end BuildScript

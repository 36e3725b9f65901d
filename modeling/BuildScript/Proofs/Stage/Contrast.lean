import BuildScript.Proofs.Shell.Occurrences
import BuildScript.Proofs.Stage.Aspects
import BuildScript.Proofs.Stage.Cache
import BuildScript.Proofs.Stage.Result

/-! # Telling texts apart

Two completed builds have different texts where some stage of the one holds a character more often
than that of the other, and no other stage nor the exit hook less often. The commands that use the
cache show how often a character stands in the slug and in the directories.
-/

namespace BuildScript

open Shell Drafting Capability

variable {c : Char}

namespace Capability

theorem opens_cacheUse (slug : String) (address : Option String) (directories : List String)
    (action : CacheAction) : Opens (cacheUse slug address directories action).text := by
  obtain ⟨rest, texts⟩ := exists_rest_of_cacheUse slug address directories
  have head : Opens "cibuild-cache " := by decide
  rw [texts action]
  exact (head.append _).append _

theorem exists_occurrences_cacheUse (hs : c ≠ '\'') (hd : c ≠ '"') (address : Option String)
    (action : CacheAction) :
    ∃ front, ∀ slug directories, Text.occurrences c (cacheUse slug address directories action).text =
      front + Text.occurrences c slug + (directories.length * Text.occurrences c " " +
        (directories.map (Text.occurrences c)).sum) := by
  refine ⟨Text.occurrences c "cibuild-cache" + ((action.name :: "--slug=" ::
      (address.map fun url => "--url=" ++ Text.shellQuote url).toList).map fun t =>
        Text.occurrences c " " + Text.occurrences c t).sum, fun slug directories => ?_⟩
  simp only [cacheUse, List.cons_append, List.nil_append, Text.occurrences_intercalate,
    List.map_cons, List.sum_cons, List.map_append, List.sum_append, Text.occurrences_append,
    Text.occurrences_shellQuote hs hd, ← sum_map_const_add]
  omega

theorem exists_occurrences_cacheNodes (hs : c ≠ '\'') (hd : c ≠ '"') (address : Option String)
    (action : CacheAction) (level : Int) :
    ∃ front times, 0 < times ∧ ∀ slug directories,
      occurrences c level (cacheNodes action (cacheUse slug address directories action)) =
        front + times * Text.occurrences c (cacheUse slug address directories action).text := by
  obtain ⟨label, fold⟩ := exists_occurrences_fold c level ("cache." ++ action.name)
  obtain ⟨front, times, ht, command⟩ := exists_occurrences_command hs hd (level + 1)
    (k := cacheUse "" address [] action) rfl
  refine ⟨label + occurrences c (level + 1) (cacheFront action) + front, times, ht,
    fun slug directories => ?_⟩
  have use := command (cacheUse slug address directories action).text (opens_cacheUse ..)
  change occurrences c (level + 1) [.command (cacheUse slug address directories action)] = _ at use
  rw [cacheNodes, fold, occurrences_append, use]
  omega

end Capability

namespace Profile

variable {p : Profile} {a b : Build}

theorem exists_directories {action : CacheAction} {js : Journal} {ns : List Node}
    (h : Writes (useDirectoryCache b (p.support b) action) () ns js) :
    b.caches "directories" = .ok false ∨ b.caches "directories" = .ok true ∧
      ∃ slug directories, p.cacheSlug b = .ok slug ∧ b.cacheDirectories = .ok directories := by
  unfold useDirectoryCache at h
  obtain ⟨asked, hc, h⟩ := h.of_read_bind
  cases asked with
  | false => exact .inl hc
  | true =>
    rw [if_pos rfl] at h
    obtain ⟨slug, hs, h⟩ := Writes.of_read_bind (r := p.cacheSlug b) h
    obtain ⟨directories, hd, -⟩ := h.of_read_bind
    exact .inr ⟨hc, slug, directories, hs, hd⟩

theorem occurrences_useDirectoryCache (hs : c ≠ '\'') (hd : c ≠ '"')
    (options : a.cacheOptions = b.cacheOptions) (asked : (Aspect.caches "directories").Same a b)
    (directories : Aspect.directories.Same a b) {slug slug' : String}
    (ha : p.cacheSlug a = .ok slug) (hb : p.cacheSlug b = .ok slug')
    (more : Text.occurrences c slug ≤ Text.occurrences c slug') {action : CacheAction}
    {js : Journal} {ns : List Node} (h : Writes (useDirectoryCache a (p.support a) action) () ns js)
    (level : Int) :
    occurrences c level (alone (useDirectoryCache a (p.support a) action)) ≤
      occurrences c level (alone (useDirectoryCache b (p.support b) action)) := by
  have asked : a.caches "directories" = b.caches "directories" := asked
  have named : a.cacheDirectories = b.cacheDirectories := directories
  rcases exists_directories h with hc | ⟨hc, _, dirs, -, hdirs⟩
  · rw [(writes_useDirectoryCache_nil p (.inl hc) action).alone_eq]
    exact Nat.zero_le _
  · by_cases hn : dirs = []
    · subst hn
      rw [(writes_useDirectoryCache_nil p (.inr ⟨hc, hdirs, _, ha⟩) action).alone_eq]
      exact Nat.zero_le _
    · have use := writes_useDirectoryCache hc ha hdirs hn action
      have use' := writes_useDirectoryCache (asked ▸ hc) hb (named ▸ hdirs) hn action
      rw [use.alone_eq, use'.alone_eq, ← options]
      obtain ⟨_, text⟩ := exists_occurrences_cacheUse hs hd (cacheAddress a.cacheOptions) action
      obtain ⟨_, times, -, nodes⟩ :=
        exists_occurrences_cacheNodes hs hd (cacheAddress a.cacheOptions) action level
      rw [nodes, nodes, text, text]
      exact Nat.add_le_add_left (Nat.mul_le_mul_left times (by omega)) _

/-- More directories of as many blanks show more blanks. -/
theorem occurrences_useDirectoryCache_lt (options : a.cacheOptions = b.cacheOptions)
    (slugs : p.cacheSlug a = p.cacheSlug b) (ca : a.caches "directories" = .ok true)
    (cb : b.caches "directories" = .ok true) {ds es : List String}
    (da : a.cacheDirectories = .ok ds) (db : b.cacheDirectories = .ok es) (hn : ds ≠ [])
    (hl : ds.length < es.length)
    (blanks : (ds.map (Text.occurrences ' ')).sum = (es.map (Text.occurrences ' ')).sum)
    {action : CacheAction} {js : Journal} {ns : List Node}
    (h : Writes (useDirectoryCache a (p.support a) action) () ns js) (level : Int) :
    occurrences ' ' level (alone (useDirectoryCache a (p.support a) action)) <
      occurrences ' ' level (alone (useDirectoryCache b (p.support b) action)) := by
  obtain ⟨slug, hs⟩ : ∃ slug, p.cacheSlug a = .ok slug := by
    rcases exists_directories h with hc | ⟨-, slug, _, hs, -⟩
    · cases ca.symm.trans hc
    · exact ⟨slug, hs⟩
  have he : es ≠ [] := List.ne_nil_of_length_pos (Nat.zero_lt_of_lt hl)
  obtain ⟨_, text⟩ := exists_occurrences_cacheUse (c := ' ') (by decide) (by decide)
    (cacheAddress a.cacheOptions) action
  obtain ⟨_, times, ht, nodes⟩ := exists_occurrences_cacheNodes (c := ' ') (by decide) (by decide)
    (cacheAddress a.cacheOptions) action level
  have blank : Text.occurrences ' ' " " = 1 := by decide
  rw [(writes_useDirectoryCache ca hs da hn action).alone_eq,
    (writes_useDirectoryCache cb (slugs ▸ hs) db he action).alone_eq, ← options, nodes, nodes, text,
    text, blank, blanks]
  exact Nat.add_lt_add_left (Nat.mul_lt_mul_of_pos_left (by omega) ht) _

theorem afterCache_congr (h : ∀ x ∈ p.ownAspects .setup, x.Same a b) :
    p.afterCache a = p.afterCache b := by
  cases p with
  | base | generic | c | cpp => rfl
  | haskell =>
    have own : ghc a = ghc b := h .ghc List.mem_cons_self
    simp only [afterCache, own]
  | java =>
    have own : jdk a = jdk b := h .jdk List.mem_cons_self
    simp only [afterCache, own]
  | android =>
    have own : jdk a = jdk b := h .jdk List.mem_cons_self
    have components : androidList a "components" = androidList b "components" :=
      h (.android "components") (by decide)
    have install := installComponents_congr (h (.android "licenses") (by decide))
    simp only [afterCache, own, components, install]

theorem occurrences_useDirectoryCache_pos {action : CacheAction} {js : Journal} {ns : List Node}
    (h : Writes (useDirectoryCache b (p.support b) action) () ns js)
    (hc : b.caches "directories" = .ok true) {directories : List String}
    (hd : b.cacheDirectories = .ok directories) (hn : directories ≠ []) (level : Int) :
    0 < occurrences 'c' level ns := by
  rcases exists_directories h with hc' | ⟨-, slug, _, hs, -⟩
  · cases hc.symm.trans hc'
  · obtain ⟨front, times, ht, nodes⟩ :=
      exists_occurrences_cacheNodes (c := 'c') (by decide) (by decide) (cacheAddress b.cacheOptions)
        action level
    obtain ⟨rest, texts⟩ :=
      exists_rest_of_cacheUse slug (cacheAddress b.cacheOptions) directories
    have tool : 0 < Text.occurrences 'c' "cibuild-cache " := by decide
    have text : 0 < Text.occurrences 'c'
        (cacheUse slug (cacheAddress b.cacheOptions) directories action).text := by
      rw [texts action, Text.occurrences_append, Text.occurrences_append]
      omega
    rw [← h.alone_eq, (writes_useDirectoryCache hc hs hd hn action).alone_eq, nodes]
    exact Nat.add_pos_right front (Nat.mul_pos ht text)

end Profile

namespace Compiler

variable {r s : Resolution} {co co' : Option Entries} {x y : Compiled}

theorem Completed.finishText_eq (h : Completed r co x) :
    finishText x = Script.render (alone (x.profile.onExit x.build)) 1 := by
  rw [finishText, h.finish]
  rfl

theorem Completed.packagedText_ne (hx : Completed r co x) (hy : Completed s co' y)
    (ht : r.status = s.status) (hn : c ≠ '\n')
    (stages : ∀ stage, occurrences c 0 (x.profile.nodes x.build stage) ≤
      occurrences c 0 (y.profile.nodes y.build stage))
    {stage : Stage} (more : occurrences c 0 (x.profile.nodes x.build stage) <
      occurrences c 0 (y.profile.nodes y.build stage))
    (exit : Text.occurrences c (Template.hookBody (Script.render (alone (x.profile.onExit x.build)) 1)) ≤
      Text.occurrences c (Template.hookBody (Script.render (alone (y.profile.onExit y.build)) 1))) :
    packagedText x ≠ packagedText y := by
  refine packagedText_ne_of_occurrences hn ?_ ?_
  · rw [hx.body, hy.body, ht, occurrences_append, occurrences_append, occurrences_flatMap,
      occurrences_flatMap]
    exact Nat.add_lt_add_left (List.sum_lt_sum _ _ (fun stage _ => stages stage)
      ⟨stage, stage.mem_all, more⟩) _
  · rw [hx.finishText_eq, hy.finishText_eq]
    exact exit

theorem Completed.packagedText_ne_of_setup (hx : Completed r co x) (hy : Completed s co' y)
    (ht : r.status = s.status) (hn : c ≠ '\n')
    (others : ∀ stage, stage ≠ .setup →
      x.profile.run x.build stage = y.profile.run y.build stage)
    (setup : occurrences c 0 (x.profile.nodes x.build .setup) <
      occurrences c 0 (y.profile.nodes y.build .setup))
    (exit : Text.occurrences c (Template.hookBody (Script.render (alone (x.profile.onExit x.build)) 1)) ≤
      Text.occurrences c (Template.hookBody (Script.render (alone (y.profile.onExit y.build)) 1))) :
    packagedText x ≠ packagedText y := by
  refine hx.packagedText_ne hy ht hn (fun stage => ?_) setup exit
  by_cases hs : stage = .setup
  · rw [hs]
    exact Nat.le_of_lt setup
  · exact Nat.le_of_eq (by rw [Profile.nodes, Profile.nodes, others stage hs])

section Packaged

variable {p q : Profile} {options : Options}
  (hl : Registry.standard.get (Entries.get r.payload.config "language") = .ok p)
include hl

/-- A text is that of a completed build, unless its status has stopped the build. -/
theorem exists_completed_of_compile (hs : r.status ≠ .serverError) {text : String}
    (h : (compile r options co Template.packaged).1 = .ok text) :
    ∃ x, Completed r co x ∧ x.profile = p ∧ packagedText x = text := by
  cases hb : (build r co).1 with
  | error f =>
    rw [compile_fst_error hb] at h
    cases h
  | ok x =>
    rw [compile_fst hb, outcome_packaged] at h
    split at h
    · cases h
    refine ⟨x, (completed_or_stopped hb).resolve_right fun stopped => hs stopped.1, ?_,
      Except.ok.inj h⟩
    obtain ⟨q, _, hq, -, rfl⟩ := exists_composed hb
    cases hl.symm.trans hq
    rfl

theorem compile_eq_of_stopped
    (hm : Registry.standard.get (Entries.get s.payload.config "language") = .ok q)
    (hr : r.status = .serverError) (hs : s.status = .serverError) (options : Options)
    (templates : Template.Renderer) :
    (compile r options co templates).1 = (compile s options co' templates).1 := by
  have stopped {t : Resolution} {o : Profile} {ct : Option Entries}
      (ht : Registry.standard.get (Entries.get t.payload.config "language") = .ok o)
      (hs : t.status = .serverError) : ∃ x, (build t ct).1 = .ok x ∧
        x.body = Status.nodes .serverError ∧ x.finish = none := by
    rw [build_of_language ht, composed_of_stopped hs, hs]
    exact ⟨_, rfl, rfl, rfl⟩
  obtain ⟨x, hx, bx, fx⟩ := stopped hl hr
  obtain ⟨y, hy, by', fy⟩ := stopped hm hs
  rw [compile_fst hx, compile_fst hy]
  simp only [outcome, Unencodable, assemble, headerContext, finishText, bx, by', fx, fy]

end Packaged

end Compiler

end BuildScript

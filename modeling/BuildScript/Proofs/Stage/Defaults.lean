import BuildScript.Proofs.Stage.Contrast
import BuildScript.Proofs.Stage.Documented
import BuildScript.Proofs.Stage.Misuse
import BuildScript.Proofs.Stage.Seen
import BuildScript.Proofs.Stage.Toolchain

/-! # Null settings

A null in a spec stands over the default under its name. Every setting that all profiles share is
read in such a way that null means what is left out, and so are the GHC and the JDK. The defaults
that a profile has of its own are not restored: there null is read as the text of its name.
-/

namespace BuildScript

open Shell Drafting Capability

namespace Profile

variable {p : Profile} {name : String}

theorem get?_defaults (p : Profile) (hn : name ≠ "git") :
    Entries.get? p.defaults (.text name) = Entries.get? p.ownDefaults (.text name) := by
  have distinct : p.ownDefaults.Distinct := by cases p <;> decide
  exact distinct.get?_overlay
    (Entries.get?_text_cons_of_ne fun he => hn (Scalar.text.inj he).symm)

theorem get?_defaults_git (p : Profile) :
    Entries.get? p.defaults (.text "git") = Entries.get? checkoutDefaults (.text "git") := by
  cases p <;> rfl

theorem ownDefaults_cases {below : Setting}
    (hn : Entries.get? p.ownDefaults (.text name) = some below) :
    name = "compiler" ∧ (p = .c ∨ p = .cpp) ∨ name = "android" ∧ p = .android := by
  obtain ⟨e, he, hk⟩ : ∃ e ∈ p.ownDefaults, e.1 = .text name := by
    obtain ⟨e, he, -⟩ := Option.map_eq_some_iff.mp hn
    have hk := List.find?_some he
    exact ⟨e, List.mem_of_find?_eq_some he, Scalar.sameKey_text.mp hk⟩
  cases p with
  | base | generic | haskell | java => cases he
  | c | cpp =>
    obtain rfl := List.mem_singleton.mp he
    cases hk
    exact .inl ⟨rfl, by decide⟩
  | android =>
    obtain rfl := List.mem_singleton.mp he
    cases hk
    exact .inr ⟨rfl, rfl⟩

theorem ne_git_of_ownDefaults {below : Setting}
    (hn : Entries.get? p.ownDefaults (.text name) = some below) : name ≠ "git" := by
  rcases ownDefaults_cases hn with ⟨rfl, -⟩ | ⟨rfl, -⟩ <;> decide

theorem eq_compiler_of_key : ∀ a ∈ p.aspects, a.key = "compiler" → a = .compiler := by
  cases p <;> decide +kernel

theorem eq_checkout_of_key : ∀ a ∈ p.aspects, a.key = "git" → a = .checkout := by
  cases p <;> decide +kernel

theorem isSome_ownDefaults : ∀ a ∈ p.aspects,
    (Entries.get? p.ownDefaults (.text a.key)).isSome = a.isRequired := by
  cases p <;> decide +kernel

theorem compiler_of_required {b : Build} {s : Setting} (h : b.config.required "compiler" = .ok s) :
    compiler b = .ok (s.written .sealed) := by
  rw [compiler, h]
  rfl

theorem androidList_of_scalar {b : Build} {s : Scalar}
    (h : b.config.required "android" = .ok (.scalar s)) (list : String) :
    androidList b list = .error .notKeyed := by
  rw [androidList, h]
  rfl

section Null

variable {payload : Payload} (hd : payload.config.Distinct) (status : Status) (co : Option Entries)
include hd

theorem get_merged_place (p : Profile) (name : String) (s : Scalar) :
    Entries.get? (p.merged ⟨payload.place [name] (.scalar s), status⟩) (.text name) =
      some (.scalar s) := by
  have held := (hd.place [name] (.scalar s)).get?_overlay_eq p.defaults name
  rw [Entries.get?_place_self] at held
  exact held

omit hd in
theorem get?_merged_without (p : Profile) (name : String) :
    Entries.get? (p.merged ⟨payload.without name, status⟩) (.text name) =
      Entries.get? p.defaults (.text name) := by
  rw [merged, Entries.get?_overlay]
  exact congrArg (List.foldl _ _) (Entries.given_erase_self payload.config name)

theorem checkout_null (p : Profile) :
    checkout (Compiler.buildFor p ⟨payload.place ["git"] .null, status⟩ co) =
      checkout (Compiler.buildFor p ⟨payload.without "git", status⟩ co) := by
  have null : (Compiler.buildFor p ⟨payload.place ["git"] .null, status⟩ co).setting "git" =
      .ok .null := by
    rw [setting_eq, Entries.get, get_merged_place hd]
    rfl
  have default : (Compiler.buildFor p ⟨payload.without "git", status⟩ co).setting "git" =
      .ok (Entries.get checkoutDefaults "git") := by
    rw [setting_eq, Entries.get, get?_merged_without, get?_defaults_git]
    rfl
  simp only [checkout, null, default, Drafting.read, pure_bind]
  rfl

theorem same_null (hn : Entries.get? p.ownDefaults (.text name) = none) : ∀ a ∈ p.aspects,
    a.Same (Compiler.buildFor p ⟨payload.place [name] .null, status⟩ co)
      (Compiler.buildFor p ⟨payload.without name, status⟩ co) := by
  intro a ha
  by_cases hk : a.key = name
  · subst hk
    by_cases hg : a.key = "git"
    · rw [eq_checkout_of_key a ha hg]
      exact checkout_null hd status co p
    · have outside : (Compiler.buildFor p ⟨payload.place [a.key] .null, status⟩ co).SameOutside
          (Compiler.buildFor p ⟨payload.without a.key, status⟩ co) := ⟨rfl, rfl⟩
      refine Aspect.same_of_setting outside ?_ fun hr => ?_
      · rw [setting_eq, setting_eq, Entries.get, Entries.get, get_merged_place hd,
          get?_merged_without, get?_defaults p hg, hn]
        rfl
      · have some := isSome_ownDefaults a ha
        rw [hn, hr] at some
        cases some
  · exact same_of_given (r := ⟨payload.place [name] .null, status⟩)
      (s := ⟨payload.without name, status⟩) rfl co
      ((payload.given_place hk [] .null).trans (payload.given_without hk).symm)

theorem required_place {below : Setting}
    (hn : Entries.get? p.ownDefaults (.text name) = some below) (s : Scalar) :
    (Compiler.buildFor p ⟨payload.place [name] (.scalar s), status⟩ co).config.required name =
      .ok (.scalar s) := by
  rw [required_eq ((get?_defaults p (ne_git_of_ownDefaults hn)).trans hn), Entries.get,
    get_merged_place hd]
  rfl

omit hd in
theorem required_without {below : Setting}
    (hn : Entries.get? p.ownDefaults (.text name) = some below) :
    (Compiler.buildFor p ⟨payload.without name, status⟩ co).config.required name = .ok below := by
  have default := (get?_defaults p (ne_git_of_ownDefaults hn)).trans hn
  rw [required_eq default, Entries.get, get?_merged_without, default]
  rfl

/-- Where a profile has a default of its own, null is read as the text of its name. -/
theorem same_none {below : Setting} (hn : Entries.get? p.ownDefaults (.text name) = some below) :
    ∀ a ∈ p.aspects, a.Same (Compiler.buildFor p ⟨payload.place [name] .null, status⟩ co)
      (Compiler.buildFor p ⟨payload.place [name] (.text "None"), status⟩ co) := by
  intro a ha
  by_cases hk : a.key = name
  · subst hk
    have hr : a.isRequired = true := by
      rw [← isSome_ownDefaults a ha, hn]
      rfl
    have held := required_place hd status co hn
    cases a with
    | compiler =>
      exact (compiler_of_required (held .null)).trans
        (compiler_of_required (held (.text "None"))).symm
    | android list =>
      exact (androidList_of_scalar (held .null) list).trans
        (androidList_of_scalar (held (.text "None")) list).symm
    | _ => cases hr
  · exact same_of_given (r := ⟨payload.place [name] .null, status⟩)
      (s := ⟨payload.place [name] (.text "None"), status⟩) rfl co
      ((payload.given_place hk [] _).trans (payload.given_place hk [] _).symm)

end Null

/-! ## The compiler of a build -/

def exportCompiler : Profile → String → Drafting Unit
  | .cpp, name => do
    assign { key := "CXX", value := (compilerPair name).1 }
    assign { key := "CC", value := (compilerPair name).2 }
  | _, name => assign { key := "CC", value := name }

def compilerProgram : Profile → String → String
  | .cpp, name => (compilerPair name).1
  | _, name => name

theorem hook_compiler (hp : p = .c ∨ p = .cpp) (b : Build) (s : Support) :
    p.hook b s .environment = (do
        sharedHook b s .environment
        Drafting.read (compiler b) >>= exportCompiler p) ∧
      p.hook b s .announce =
        (Drafting.read (compiler b) >>= fun name => announceVersion (compilerProgram p name)) := by
  rcases hp with rfl | rfl <;> exact ⟨rfl, rfl⟩

theorem steady_exportCompiler (p : Profile) (name : String) :
    Steady AnyNodes Unstructural (exportCompiler p name) := by
  cases p with
  | cpp => exact .bind (.assign _) fun _ => .assign _
  | _ => exact .assign _

section Nodes

variable {a b : Build} {name : String} {js : Journal} (hp : p = .c ∨ p = .cpp)
include hp

theorem nodes_environment (hn : compiler b = .ok name)
    (h : Writes (p.run b .environment) () (p.nodes b .environment) js) :
    p.nodes b .environment =
      alone (sharedHook b (p.support b) .environment) ++ alone (exportCompiler p name) := by
  have hook := (hook_compiler hp b (p.support b)).1
  rw [hn] at hook
  exact (nodes_of_builtin rfl hook (steady_sharedHook b (steady_support p b) _)
    (steady_exportCompiler p name) h).1

theorem nodes_announce (hn : compiler b = .ok name) :
    p.nodes b .announce = alone (announceVersion (compilerProgram p name)) := by
  rw [nodes, run_of_builtin rfl, (hook_compiler hp b (p.support b)).2, hn]
  rfl

def ownCompiler : Profile → String
  | .cpp => "g++"
  | _ => "gcc"

theorem cacheSlug_compiler (hn : compiler b = .ok name) :
    p.cacheSlug b = .ok ("cache--compiler-" ++ name) := by
  rcases hp with rfl | rfl <;> rw [cacheSlug, hn] <;> rfl

theorem occurrences_announce_none (ha : compiler a = .ok p.ownCompiler)
    (hb : compiler b = .ok "None") :
    occurrences 'N' 0 (p.nodes a .announce) < occurrences 'N' 0 (p.nodes b .announce) := by
  rw [nodes_announce hp ha, nodes_announce hp hb]
  rcases hp with rfl | rfl <;> decide +kernel

section None

/-! The text for null shows in the script where the default compiler would stand. -/

variable (ho : a.SameOutside b) (same : ∀ x ∈ p.aspects, x ≠ .compiler → x.Same a b)
  (ha : compiler a = .ok p.ownCompiler) (hb : compiler b = .ok "None")
include ho same ha hb

theorem occurrences_cache_none {action : CacheAction} {ns : List Node}
    (h : Writes (useDirectoryCache a (p.support a) action) () ns js) (level : Int) :
    occurrences 'N' level (alone (useDirectoryCache a (p.support a) action)) ≤
      occurrences 'N' level (alone (useDirectoryCache b (p.support b) action)) := by
  have cached (x : Aspect) (hx : x ∈ p.cacheAspects) (hc : x ≠ .compiler) : x.Same a b :=
    same x (p.cacheAspects_subset hx) hc
  have slugs : Text.occurrences 'N' ("cache--compiler-" ++ p.ownCompiler) ≤
      Text.occurrences 'N' ("cache--compiler-" ++ "None") := by
    rcases hp with rfl | rfl <;> decide +kernel
  exact occurrences_useDirectoryCache (by decide) (by decide) ho.cacheOptions
    (cached _ List.mem_cons_self (by decide))
    (cached _ (List.mem_cons_of_mem _ List.mem_cons_self) (by decide))
    (cacheSlug_compiler hp ha) (cacheSlug_compiler hp hb) slugs h level

/-- Only the stages that name the compiler change, and they name it by more. -/
theorem occurrences_none (wa : ∀ stage, ∃ js, Writes (p.run a stage) () (p.nodes a stage) js)
    (wb : ∀ stage, ∃ js, Writes (p.run b stage) () (p.nodes b stage) js) (stage : Stage) :
    occurrences 'N' 0 (p.nodes a stage) ≤ occurrences 'N' 0 (p.nodes b stage) := by
  have other (hs : .compiler ∉ p.stageAspects stage) :
      occurrences 'N' 0 (p.nodes a stage) ≤ occurrences 'N' 0 (p.nodes b stage) := by
    have run : p.run a stage = p.run b stage :=
      run_congr ho fun x hx => same x (mem_aspects hx) fun he => hs (he ▸ hx)
    exact Nat.le_of_eq (by rw [nodes, nodes, run])
  obtain ⟨_, ha'⟩ := wa stage
  obtain ⟨_, hb'⟩ := wb stage
  cases stage with
  | environment =>
    have declared : ∀ x ∈ p.sharedAspects .environment, x.Same a b := by
      have reads : .environment ∈ p.stageAspects .environment :=
        List.mem_append_left _ (List.mem_append_right _ List.mem_cons_self)
      exact List.forall_mem_singleton.mpr (same .environment (mem_aspects reads) (by decide))
    have exports : occurrences 'N' 0 (alone (exportCompiler p p.ownCompiler)) ≤
        occurrences 'N' 0 (alone (exportCompiler p "None")) := by
      rcases hp with rfl | rfl <;> decide +kernel
    rw [nodes_environment hp ha ha', nodes_environment hp hb hb', sharedHook_congr ho declared,
      occurrences_append, occurrences_append]
    exact Nat.add_le_add_left exports _
  | announce => exact Nat.le_of_lt (occurrences_announce_none hp ha hb)
  | setup =>
    obtain ⟨setup, ⟨_, cache⟩, -⟩ := nodes_setup ha'
    have rest : p.afterCache a = p.afterCache b := by rcases hp with rfl | rfl <;> rfl
    have uses := occurrences_cache_none hp ho same ha hb cache 0
    rw [setup, (nodes_setup hb').1, rest, occurrences_append, occurrences_append]
    exact Nat.add_le_add_right uses _
  | _ => exact other (by rcases hp with rfl | rfl <;> decide +kernel)

end None

end Nodes

end Profile

namespace Compiler

open Profile

section Payload

variable {payload : Payload} (hd : payload.config.Distinct) {name : String} (co : Option Entries)
  {p : Profile} {status : Status}
include hd

theorem packagedText_null_ne {x y : Compiled} (hp : p = .c ∨ p = .cpp)
    (hx : Completed ⟨payload.without "compiler", status⟩ co x)
    (hy : Completed ⟨payload.place ["compiler"] .null, status⟩ co y) (px : x.profile = p)
    (py : y.profile = p) : packagedText x ≠ packagedText y := by
  have outside : x.build.SameOutside y.build := by rw [hx.build, hy.build]; exact ⟨rfl, rfl⟩
  have same : ∀ a ∈ p.aspects, a ≠ .compiler → a.Same x.build y.build := by
    intro a ha hc
    have hk : a.key ≠ "compiler" := fun he => hc (eq_compiler_of_key a ha he)
    rw [hx.build, hy.build, px, py]
    exact same_of_given (r := ⟨payload.without "compiler", status⟩)
      (s := ⟨payload.place ["compiler"] .null, status⟩) rfl co
      ((payload.given_without hk).trans (payload.given_place hk [] .null).symm)
  have own : Entries.get? p.ownDefaults (.text "compiler") = some (.text p.ownCompiler) := by
    rcases hp with rfl | rfl <;> rfl
  have none : compiler y.build = .ok "None" := by
    rw [hy.build, py]
    exact compiler_of_required (required_place hd status co own .null)
  have default : compiler x.build = .ok p.ownCompiler := by
    rw [hx.build, px]
    exact compiler_of_required (required_without status co own)
  have wx := hx.stages
  have wy := hy.stages
  obtain ⟨_, exit⟩ := hx.exit
  rw [px] at wx exit
  rw [py] at wy
  have announce : occurrences 'N' 0 (x.profile.nodes x.build .announce) <
      occurrences 'N' 0 (y.profile.nodes y.build .announce) := by
    rw [px, py]
    exact occurrences_announce_none hp default none
  refine hx.packagedText_ne hy rfl (by decide) (fun stage => ?_) announce ?_
  · rw [px, py]
    exact occurrences_none hp outside same default none wx wy stage
  · rw [Template.occurrences_hookBody (by decide) (by decide) (by decide),
      Template.occurrences_hookBody (by decide) (by decide) (by decide),
      Script.occurrences_render (by decide), Script.occurrences_render (by decide), px, py]
    exact occurrences_cache_none hp outside same default none exit 1

omit hd in
theorem get_null (payload : Payload) (name other : String) :
    Entries.get (payload.place [name] .null).config other =
      Entries.get (payload.without name).config other := by
  by_cases hn : other = name
  · subst hn
    rw [Entries.get, Entries.get, Payload.place, Payload.without, Entries.get?_place_self,
      Entries.get?_erase_self]
    rfl
  · rw [payload.get_place hn, payload.get_without hn]

/-- With a null over a default of its profile, a spec has the text of the default just if its status
stops the build. -/
theorem compile_null_iff {below : Setting}
    (hl : Registry.standard.get (Entries.get (payload.without name).config "language") = .ok p)
    (hn : Entries.get? p.ownDefaults (.text name) = some below) {options : Options} {text : String}
    (ht : (compile ⟨payload.without name, status⟩ options co Template.packaged).1 = .ok text) :
    (compile ⟨payload.place [name] .null, status⟩ options co Template.packaged).1 = .ok text ↔
      status = .serverError := by
  have hl' : Registry.standard.get (Entries.get (payload.place [name] .null).config "language") =
      .ok p := (congrArg Registry.standard.get (get_null payload name "language")).trans hl
  constructor
  · refine fun hy => Decidable.of_not_not fun hs => ?_
    obtain ⟨x, hx, px, tx⟩ := exists_completed_of_compile (r := ⟨payload.without name, status⟩) hl hs ht
    obtain ⟨y, hy, py, ty⟩ :=
      exists_completed_of_compile (r := ⟨payload.place [name] .null, status⟩) hl' hs hy
    obtain ⟨rfl, hp⟩ | ⟨rfl, rfl⟩ := ownDefaults_cases hn
    · exact packagedText_null_ne hd co hp hx hy px py (tx.trans ty.symm)
    · have android := hy.usable.android py
      rw [py, Entries.get, get_merged_place hd] at android
      cases android
  · intro hs
    rw [← ht]
    exact compile_eq_of_stopped (r := ⟨payload.place [name] .null, status⟩)
      (s := ⟨payload.without name, status⟩) hl' hl hs hs options Template.packaged

/-- A null is read as if nothing were given, unless the profile has a default of its own under the
name. There it is read as the text of its name: a spec that has a text without it has the same text
with it just if its status stops the build. -/
theorem null_hides_own_defaults (name : String) :
    ((∀ p, Registry.standard.get (Entries.get (payload.without name).config "language") = .ok p →
        Entries.get? p.ownDefaults (.text name) = none) →
      Alike (buildPayload (payload.place [name] .null) co) (buildPayload (payload.without name) co) ∧
      ∀ options templates, compilePayload (payload.place [name] .null) options co templates =
        compilePayload (payload.without name) options co templates) ∧
    ∀ p below,
      Registry.standard.get (Entries.get (payload.without name).config "language") = .ok p →
      Entries.get? p.ownDefaults (.text name) = some below →
      (Alike (buildPayload (payload.place [name] .null) co)
          (buildPayload (payload.place [name] (.text "None")) co) ∧
        ∀ options templates, compilePayload (payload.place [name] .null) options co templates =
          compilePayload (payload.place [name] (.text "None")) options co templates) ∧
      ∀ options text,
        (compilePayload (payload.without name) options co Template.packaged).1 = .ok text →
        ((compilePayload (payload.place [name] .null) options co Template.packaged).1 = .ok text ↔
          (Status.ofConfig payload.config).1 = .serverError) := by
  have language := get_null payload name "language"
  refine ⟨fun none => ?absent, fun p below hl hn => ?own⟩
  case absent =>
    refine payload_congr (by rw [Status.ofConfig, Status.ofConfig, get_null]) fun status =>
      build_congr language rfl rfl fun p hl => ?_
    exact same_null hd status co (none p ((congrArg _ language).symm.trans hl))
  case own =>
    obtain ⟨hk, hg⟩ : resultKey ≠ name ∧ "language" ≠ name := by
      rcases ownDefaults_cases hn with ⟨rfl, -⟩ | ⟨rfl, -⟩ <;> decide
    constructor
    · refine payload_congr ((payload.ofConfig_place hk _ _).trans (payload.ofConfig_place hk _ _).symm)
        fun status => build_congr ((payload.get_place hg _ _).trans (payload.get_place hg _ _).symm)
          rfl rfl fun q hq => ?_
      cases hl.symm.trans ((congrArg _ language).symm.trans hq)
      exact same_none hd status co hn
    · intro options text ht
      rw [compilePayload_fst_of_status (congrArg Prod.fst (payload.ofConfig_without hk))] at ht
      rw [compilePayload_fst_of_status (congrArg Prod.fst (payload.ofConfig_place hk _ _))]
      exact compile_null_iff hd co hl hn ht

end Payload

/-- A spec for C in which both a shared default and one of the profile are null. -/
def nullSpec : Payload where
  config := .ofList [
    (.text "language", .text "c"), (.text "git", .null), (.text "compiler", .null)]

theorem exists_text_without_compiler : ∃ text, ∀ options : Options, options.logTree = false →
    (compilePayload (nullSpec.without "compiler") options none Template.packaged).1 = .ok text := by
  have selected : Registry.standard.get
      (Entries.get (nullSpec.without "compiler").config "language") = .ok .c := rfl
  have usable : Profile.c.Usable (Resolution.ofPayload (nullSpec.without "compiler")).1 := by
    decide +kernel
  exact exists_text_of_usable selected usable none

theorem null_hides_own_defaults_c :
    nullSpec.config.Distinct ∧
    (∀ options templates, compilePayload (nullSpec.place ["git"] .null) options none templates =
      compilePayload (nullSpec.without "git") options none templates) ∧
    ∃ text, ∀ options : Options, options.logTree = false →
      (compilePayload (nullSpec.without "compiler") options none Template.packaged).1 = .ok text ∧
      (compilePayload (nullSpec.place ["compiler"] .null) options none Template.packaged).1 ≠
        .ok text := by
  have distinct : nullSpec.config.Distinct := Entries.distinct_ofList _
  obtain ⟨text, ht⟩ := exists_text_without_compiler
  refine ⟨distinct, ((null_hides_own_defaults distinct none "git").1 ?_).2, text, fun options quiet =>
    ⟨ht options quiet, fun he => ?_⟩⟩
  · intro p hp
    cases hp
    rfl
  · have own := (null_hides_own_defaults distinct none "compiler").2 .c _ rfl rfl
    cases (own.2 options text (ht options quiet)).mp he

/-- With no compiler named, or a null in its place, the texts differ. -/
theorem null_compiler_not_restored : ∃ text,
    (compilePayload (nullSpec.without "compiler") ⟨none, false⟩ none Template.packaged).1 = .ok text ∧
      (compilePayload nullSpec ⟨none, false⟩ none Template.packaged).1 ≠ .ok text := by
  have distinct : nullSpec.config.Distinct := Entries.distinct_ofList _
  obtain ⟨text, ht⟩ := exists_text_without_compiler
  refine ⟨text, ht _ rfl, fun he => ?_⟩
  have here : nullSpec.place ["compiler"] .null = nullSpec := nullSpec.place_self rfl
  have compiled := ht ⟨none, false⟩ rfl
  rw [← here] at he
  rw [compilePayload_fst_of_status rfl] at compiled he
  have selected : Registry.standard.get
      (Entries.get (nullSpec.without "compiler").config "language") = .ok .c := rfl
  have own : Entries.get? Profile.c.ownDefaults (.text "compiler") = some (.text "gcc") := rfl
  cases (compile_null_iff distinct none selected own compiled).mp he

end Compiler

end BuildScript

import BuildScript.Proofs.Draft.Concur
import BuildScript.Proofs.Draft.Success
import BuildScript.Proofs.Shell.Quoting
import BuildScript.Proofs.Stage.Paranoid

/-! # Addons at their hooks

Each addon has one hook of its own, and no two addons share one. So the addons that run at a hook
come to the addon whose hook it is with what is given for it, whatever else stands among the addon
settings and in whatever order; at all other hooks addons do nothing but take note.
-/

namespace BuildScript

open Shell Drafting Capability

namespace Capability

namespace Addon

def nodes : Addon → List String → List Node
  | .hosts, names =>
    if " ".intercalate names = "" then []
    else [.command {
      text := "echo " ++ Text.shellQuote ("127.0.0.1 " ++ " ".intercalate names) ++
        " | sudo tee -a /etc/hosts > /dev/null"
      echo := true }]
  | .aptPackages, packages =>
    if packages = [] then []
    else [.fold "apt" [
      .command { text := messageLine "Installing APT Packages" (some Color.yellow.name) },
      .command {
        text := "sudo -E apt-get -yq --no-install-suggests --no-install-recommends install " ++
          " ".intercalate (packages.map Text.shellQuote)
        echo := true, asserted := true, retry := true, timing := true }]]

theorem writes_write (a : Addon) (values : List String) :
    Writes (a.write values) () (a.nodes values) [] := by
  cases a with
  | hosts =>
    by_cases h : " ".intercalate values = ""
    · rw [nodes, if_pos h, write, writeHosts, if_pos h]
      exact Writes.pure ()
    · rw [nodes, if_neg h]
      exact writes_writeHosts h
  | aptPackages =>
    by_cases h : values = []
    · subst h
      exact Writes.pure ()
    · rw [nodes, if_neg h]
      exact writes_writePackages h

def serve (a : Addon) (config : Setting) : Drafting Unit := do
  let values ← read (config.optionalTexts .sealed)
  a.write values

theorem steady_serve (a : Addon) (config : Setting) :
    Steady AnyNodes Unstructural (a.serve config) :=
  .bind (.read _) fun values => a.steady_write values

def at? (hook : String) : Option Addon := all.find? fun a => a.hook == hook

theorem at?_eq_some_iff {hook : String} {a : Addon} : at? hook = some a ↔ a.hook = hook := by
  constructor
  · intro h
    exact beq_iff_eq.mp (List.find?_some h :)
  · rintro rfl
    cases a <;> rfl

def IsHook (hook : String) : Prop :=
  ∃ stage : Stage, hook = "before_" ++ stage.name ∨ hook = "after_" ++ stage.name

theorem part?_of_ne {a : Addon} {config : Setting} {hook : String} (hh : IsHook hook)
    (hn : hook ≠ a.hook) : a.part? config hook = none := by
  have members : hook ∉ ["name", "_as_list", "config"] := by
    obtain ⟨stage, rfl | rfl⟩ := hh <;> cases stage <;> decide
  unfold part?
  rw [if_neg hn]
  split <;> simp_all

end Addon

/-- What comes of addon settings at a hook: the addon whose hook it is runs with what is given under
its name. -/
def atHook (es : Entries) (hook : String) : Drafting Unit :=
  match Addon.at? hook with
  | none => pure ()
  | some a => (Entries.given es a.name).forM a.serve

theorem atHook_eq (es : Entries) (a : Addon) :
    atHook es a.hook = (Entries.given es a.name).forM a.serve := by
  rw [atHook, Addon.at?_eq_some_iff.mpr rfl]

theorem atHook_of_none {hook : String} (h : Addon.at? hook = none) (es : Entries) :
    atHook es hook = pure () := by
  rw [atHook, h]

theorem concur_serve {a : Addon} {config : Setting} :
    Concur (runAddon (fun b config => b.part? config a.hook) a.hook (.text a.name, config))
      (a.serve config) := by
  have part : a.part? config a.hook = some .hook := if_pos rfl
  unfold runAddon
  simp only [a.ofName?_name, part]
  exact .drop_left (.note _) (.of_steady (a.steady_serve config))

theorem runAddons_eq {b : Build} {hook : String} (hp : b.payload.paranoid = false) :
    runAddons b hook = (do
      let es ← read (b.entriesOf "addons")
      es.forM (runAddon (fun a config => a.part? config hook) hook)) := by
  rw [runAddons, runParts, hp, Build.entriesOf]
  cases b.setting "addons" <;> rfl

section Hook

variable {hook : String} (hh : Addon.IsHook hook)
include hh

theorem concur_idle {entry : Scalar × Setting}
    (h : ∀ a : Addon, a.hook = hook → entry.1 ≠ .text a.name) :
    Concur (runAddon (fun a config => a.part? config hook) hook entry) (pure ()) := by
  unfold runAddon
  dsimp only
  split
  · exact .note _
  · next a he =>
    split at he
    · next name hn =>
      have ha : hook ≠ a.hook := fun hk => h a hk.symm (by rw [hn, Addon.name_of_ofName? he])
      rw [Addon.part?_of_ne hh ha]
      exact .of_steady (.pure ())
    · cases he

/-- The addons that run at a hook come to the addon whose hook it is. -/
theorem concur_atHook (es : Entries) :
    Concur (es.forM (runAddon (fun a config => a.part? config hook) hook)) (atHook es hook) := by
  cases hk : Addon.at? hook with
  | none =>
    have none_here (a : Addon) : a.hook ≠ hook := fun h => by
      rw [Addon.at?_eq_some_iff.mpr h] at hk
      cases hk
    rw [atHook_of_none hk]
    induction es with
    | nil => exact .of_steady (.pure ())
    | cons e rest ih => exact .drop_left (concur_idle hh fun a h => absurd h (none_here a)) ih
  | some a =>
    obtain rfl := Addon.at?_eq_some_iff.mp hk
    rw [atHook_eq]
    induction es with
    | nil => exact .of_steady (.pure ())
    | cons e rest ih =>
      by_cases he : e.1 = .text a.name
      · obtain ⟨key, config⟩ := e
        subst he
        rw [Entries.given_cons_self]
        exact .bind concur_serve fun _ => ih
      · rw [Entries.given_cons_of_ne he]
        refine .drop_left (concur_idle hh fun a' h => ?_) ih
        obtain rfl : a' = a := Option.some.inj ((Addon.at?_eq_some_iff.mpr h).symm.trans hk)
        exact he

theorem concur_runAddons {b : Build} (hp : b.payload.paranoid = false) {es : Entries}
    (he : b.entriesOf "addons" = .ok es) : Concur (runAddons b hook) (atHook es hook) := by
  rw [runAddons_eq hp, he]
  exact concur_atHook hh es

end Hook

theorem atHook_nil (hook : String) : atHook [] hook = pure () := by
  unfold atHook
  split <;> rfl

theorem atHook_before {stage : Stage} (h : stage ≠ .install) (es : Entries) :
    atHook es ("before_" ++ stage.name) = pure () :=
  atHook_of_none (by revert h; cases stage <;> decide) es

theorem atHook_after {stage : Stage} (h : stage ≠ .preSetup) (es : Entries) :
    atHook es ("after_" ++ stage.name) = pure () :=
  atHook_of_none (by revert h; cases stage <;> decide) es

theorem steady_atHook (es : Entries) (hook : String) :
    Steady AnyNodes Unstructural (atHook es hook) := by
  unfold atHook
  split
  · exact .pure ()
  · next a _ => exact .forM fun config _ => a.steady_serve config

theorem exists_values {es : Entries} (hd : es.Distinct) {a : Addon} {ns : List Node} {js : Journal}
    (h : Writes (atHook es a.hook) () ns js) :
    ∃ values, (Entries.get es a.name).optionalTexts .sealed = .ok values ∧ ns = a.nodes values := by
  rw [atHook_eq, hd.given_eq] at h
  cases hs : Entries.get? es (.text a.name) with
  | none =>
    rw [hs] at h
    cases (Writes.pure ()).apply_empty.symm.trans h.apply_empty
    refine ⟨[], by rw [Entries.get, hs]; rfl, ?_⟩
    cases a <;> rfl
  | some config =>
    rw [hs] at h
    have served : Writes (a.serve config >>= fun _ => pure ()) () ns js := h
    rw [bind_pure_unit] at served
    obtain ⟨values, hv, hw⟩ := served.of_read_bind
    cases (a.writes_write values).apply_empty.symm.trans hw.apply_empty
    exact ⟨values, by rw [Entries.get, hs]; exact hv, rfl⟩

/-- The addon settings that are of an addon. -/
def known (es : Entries) : Entries :=
  es.filter fun e => Addon.all.any fun a => decide (e.1 = .text a.name)

theorem given_known (es : Entries) (a : Addon) :
    Entries.given (known es) a.name = Entries.given es a.name := by
  rw [Entries.given, known, List.filter_filter, Entries.given]
  congr 2
  funext e
  by_cases he : e.1 = .text a.name
  · have : (Addon.all.any fun a => decide (e.1 = .text a.name)) = true :=
      List.any_eq_true.mpr ⟨a, a.mem_all, decide_eq_true he⟩
    rw [this, Bool.and_true]
  · rw [decide_eq_false he, Bool.false_and]

/-- Neither the order of the addon settings counts nor what is not of an addon. -/
theorem atHook_congr {es fs : Entries} (hd : es.Distinct) (h : (known es).Perm (known fs))
    (hook : String) : atHook es hook = atHook fs hook := by
  have given (a : Addon) : Entries.given es a.name = Entries.given fs a.name := by
    have perm : (Entries.given es a.name).Perm (Entries.given fs a.name) := by
      rw [← given_known es, ← given_known fs]
      exact (h.filter _).map _
    rw [hd.given_eq] at perm ⊢
    cases hs : Entries.get? es (.text a.name) with
    | none =>
      rw [hs] at perm
      exact (List.nil_perm.mp perm).symm
    | some config =>
      rw [hs] at perm
      exact List.singleton_perm.mp perm
  unfold atHook
  split
  · rfl
  · rw [given]

end Capability

namespace Profile

variable {p : Profile} {b c : Build} {stage : Stage}

def setUp (p : Profile) (b : Build) : Drafting Unit := do
  let names ← read (b.textsOf "services")
  startServices names
  if ← read (b.caches "apt") then
    (p.support b).fix .aptCache
  (p.support b).fix .ps4

theorem run_preSetup_eq (p : Profile) (b : Build) :
    p.run b .preSetup = (do
      note (.running .preSetup)
      p.setUp b
      runAddons b "after_pre_setup") := by
  simp only [run_preSetup, setUp, afterServices, bind_assoc]
  refine bind_congr fun _ => bind_congr fun _ => bind_congr fun _ => bind_congr fun caches => ?_
  cases caches with
  | false => rfl
  | true => exact (bind_assoc _ _ _).symm

def inner (p : Profile) (b : Build) (stage : Stage) : Drafting Unit :=
  if stage = .preSetup then p.setUp b
  else match stage.kind with
    | .builtin => p.hook b (p.support b) stage
    | .custom => do
      let texts ← read (b.textsOf stage.name)
      p.between b stage texts

theorem steady_inner : Steady AnyNodes Unstructural (p.inner b stage) := by
  have fix := (steady_support (P := AnyNodes) (F := Unstructural) p b).fix
  refine .ite (.bind (.read _) fun _ => .bind (steady_startServices _) fun _ => .bind (.read _)
    fun _ => .when (fix _) (fix _)) ?_
  split
  · exact steady_hook b (steady_support p b) p Readable.own fun _ _ => trivial
  · exact .bind (.read _) fun _ => steady_between

/-- A stage comes to what it does besides its addons, with the addons at its two hooks. -/
theorem concur_run (hp : b.payload.paranoid = false) {es : Entries}
    (he : b.entriesOf "addons" = .ok es) (stage : Stage) :
    Concur (p.run b stage) (do
      atHook es ("before_" ++ stage.name)
      p.inner b stage
      atHook es ("after_" ++ stage.name)) := by
  have before := concur_runAddons ⟨stage, .inl rfl⟩ hp he
  have after := concur_runAddons ⟨stage, .inr rfl⟩ hp he
  by_cases hs : stage = .preSetup
  · subst hs
    rw [run_preSetup_eq, atHook_before (by decide), pure_bind]
    have inner : Steady AnyNodes Unstructural (p.inner b .preSetup) := steady_inner
    exact .drop_left (.note _) (.then_bind inner fun _ => after)
  cases hk : stage.kind with
  | builtin =>
    have install : stage ≠ .install := fun h => by
      rw [h] at hk
      cases hk
    rw [run_of_builtin hk, atHook_before install, atHook_after hs, pure_bind, bind_pure_unit, inner,
      if_neg hs, hk]
    exact .drop_left (.note _) (.of_steady (steady_hook b (steady_support p b) p Readable.own
      fun _ _ => trivial))
  | custom =>
    rw [run_eq hk, inner, if_neg hs, hk]
    simp only [bind_assoc]
    exact .drop_left (.note _) (.bind before fun _ => .then_bind (.read _) fun _ =>
      .then_bind steady_between fun _ => after)

/-- Two builds that are the same but for their addons. -/
structure ButAddons (b c : Build) : Prop where
  outside : b.SameOutside c
  same {a : Aspect} (h : a.key ≠ "addons") : a.Same b c

theorem ButAddons.cached (h : ButAddons b c) : ∀ a ∈ p.cacheAspects, a.Same b c := fun a ha =>
  h.same (by revert a; cases p <;> decide)

theorem inner_congr (h : ButAddons b c) (p : Profile) (stage : Stage) :
    p.inner b stage = p.inner c stage := by
  have texts : b.textsOf stage.name = c.textsOf stage.name :=
    h.same (a := .texts stage.name) (by cases stage <;> decide)
  unfold inner
  split
  · have services : b.textsOf "services" = c.textsOf "services" :=
      h.same (a := .texts "services") (by decide)
    have caches : b.caches "apt" = c.caches "apt" := h.same (a := .caches "apt") (by decide)
    rw [setUp, setUp, services, caches, support_fix_eq h.outside]
  · next hs =>
    have hook : p.hook b (p.support b) stage = p.hook c (p.support c) stage := by
      refine hook_congr h.outside fun a ha => h.same ?_
      revert hs a
      cases p <;> cases stage <;> decide
    simp only [between, texts, hook]

theorem concur_run_bare (h : ButAddons b c) (hp : c.payload.paranoid = false)
    (hc : c.entriesOf "addons" = .ok []) (stage : Stage) :
    Concur (p.run c stage) (p.inner b stage) := by
  have run := concur_run (p := p) hp hc stage
  rw [atHook_nil, atHook_nil, pure_bind, bind_pure_unit, ← inner_congr h] at run
  exact run

/-- A stage that writes: its addons write at its hooks, and it writes what it does besides in
between. -/
structure Framed (p : Profile) (b : Build) (es : Entries) (stage : Stage) : Prop where
  nodes : p.nodes b stage = alone (atHook es ("before_" ++ stage.name)) ++
    (alone (p.inner b stage) ++ alone (atHook es ("after_" ++ stage.name)))
  before : ∃ js, Writes (atHook es ("before_" ++ stage.name)) ()
    (alone (atHook es ("before_" ++ stage.name))) js
  inner : ∃ js, Writes (p.inner b stage) () (alone (p.inner b stage)) js
  after : ∃ js, Writes (atHook es ("after_" ++ stage.name)) ()
    (alone (atHook es ("after_" ++ stage.name))) js

theorem framed_of_writes (hp : b.payload.paranoid = false) {es : Entries}
    (he : b.entriesOf "addons" = .ok es) {js : Journal}
    (hw : Writes (p.run b stage) () (p.nodes b stage) js) : Framed p b es stage := by
  have steady (hook : String) := steady_atHook es hook
  obtain ⟨_, h⟩ := (concur_run hp he stage).of_writes hw
  obtain ⟨_, _, _, hb, h₁, e₁⟩ := (steady _).of_bind
    (fun _ => .bind (steady_inner (p := p)) fun _ => steady _) h
  obtain ⟨_, _, _, hi, ha, e₂⟩ := (steady_inner (p := p)).of_bind (fun _ => steady _) h₁
  exact ⟨e₁.trans (by rw [e₂]), ⟨_, hb⟩, ⟨_, hi⟩, ⟨_, ha⟩⟩

theorem Framed.nodes_eq {es : Entries} (h : Framed p b es stage) :
    p.nodes b stage = (if stage = .install then alone (atHook es Addon.aptPackages.hook) else []) ++
      (alone (p.inner b stage) ++
        if stage = .preSetup then alone (atHook es Addon.hosts.hook) else []) := by
  have idle : alone (pure () : Drafting Unit) = [] := (Writes.pure ()).alone_eq
  have before : alone (atHook es ("before_" ++ stage.name)) =
      if stage = .install then alone (atHook es Addon.aptPackages.hook) else [] := by
    split
    · next hs =>
      subst hs
      rfl
    · next hs => rw [atHook_before hs, idle]
  have after : alone (atHook es ("after_" ++ stage.name)) =
      if stage = .preSetup then alone (atHook es Addon.hosts.hook) else [] := by
    split
    · next hs =>
      subst hs
      rfl
    · next hs => rw [atHook_after hs, idle]
  rw [h.nodes, before, after]

theorem Framed.bare {es : Entries} (h : Framed p b es stage) (but : ButAddons b c)
    (hp : c.payload.paranoid = false) (hc : c.entriesOf "addons" = .ok []) :
    p.nodes c stage = alone (p.inner b stage) ∧
      ∃ js, Writes (p.run c stage) () (p.nodes c stage) js := by
  obtain ⟨_, hi⟩ := h.inner
  obtain ⟨js, hw⟩ := (concur_run_bare but hp hc stage).symm.of_writes hi
  have nodes : p.nodes c stage = alone (p.inner b stage) := hw.alone_eq
  exact ⟨nodes, js, nodes ▸ hw⟩

theorem exists_entriesOf (hp : b.payload.paranoid = false) {ns : List Node} {js : Journal}
    (hw : Writes (p.run b .preSetup) () ns js) : ∃ es, b.entriesOf "addons" = .ok es := by
  have h := hw.succeeds
  rw [run_preSetup_eq, runAddons_eq hp] at h
  obtain ⟨es, hes, -⟩ := h.of_then.of_then.of_read_bind
  exact ⟨es, hes⟩

end Profile

end BuildScript

import BuildScript.Proofs.Shell.Encoding
import BuildScript.Proofs.Template.Packaged

/-! # Results of compiles

What a compile answers and notes beyond the build that it makes: the status of the payload comes
first, the dump of the tree last, and the text is set between the templates.
-/

namespace BuildScript.Compiler

open Shell Text

variable {r : Resolution} {co : Option Entries} {c : Compiled} {templates : Template.Renderer}

theorem buildPayload_eq (p : Payload) (co : Option Entries) :
    buildPayload p co = ((build (Resolution.ofPayload p).1 co).1,
      (Resolution.ofPayload p).2 ++ (build (Resolution.ofPayload p).1 co).2) := by
  unfold buildPayload
  obtain ⟨r, journal⟩ := Resolution.ofPayload p
  dsimp only

theorem buildPayload_fst (p : Payload) (co : Option Entries) :
    (buildPayload p co).1 = (build (Resolution.ofPayload p).1 co).1 := by
  rw [buildPayload_eq]

theorem buildPayload_of_status {p : Payload} {status : Status} {notices : Journal}
    (h : Status.ofConfig p.config = (status, notices)) (co : Option Entries) :
    buildPayload p co =
      ((build ⟨p, status⟩ co).1, notices ++ (build ⟨p, status⟩ co).2) := by
  rw [buildPayload_eq, Resolution.ofPayload, h]

theorem buildPayload_fst_of_status {p : Payload} {status : Status}
    (h : (Status.ofConfig p.config).1 = status) (co : Option Entries) :
    (buildPayload p co).1 = (build ⟨p, status⟩ co).1 := by
  rw [buildPayload_fst, ← h]
  rfl

theorem compilePayload_eq (p : Payload) (options : Options) (co : Option Entries)
    (templates : Template.Renderer) :
    compilePayload p options co templates =
      ((compile (Resolution.ofPayload p).1 options co templates).1,
        (Resolution.ofPayload p).2 ++
          (compile (Resolution.ofPayload p).1 options co templates).2) := by
  unfold compilePayload
  obtain ⟨r, journal⟩ := Resolution.ofPayload p
  dsimp only

theorem compilePayload_fst (p : Payload) (options : Options) (co : Option Entries)
    (templates : Template.Renderer) :
    (compilePayload p options co templates).1 =
      (compile (Resolution.ofPayload p).1 options co templates).1 := by
  rw [compilePayload_eq]

theorem compilePayload_of_status {p : Payload} {status : Status} {notices : Journal}
    (h : Status.ofConfig p.config = (status, notices)) (options : Options) (co : Option Entries)
    (templates : Template.Renderer) :
    compilePayload p options co templates =
      ((compile ⟨p, status⟩ options co templates).1,
        notices ++ (compile ⟨p, status⟩ options co templates).2) := by
  rw [compilePayload_eq, Resolution.ofPayload, h]

theorem compilePayload_fst_of_status {p : Payload} {status : Status}
    (h : (Status.ofConfig p.config).1 = status) (options : Options) (co : Option Entries)
    (templates : Template.Renderer) :
    (compilePayload p options co templates).1 = (compile ⟨p, status⟩ options co templates).1 := by
  rw [compilePayload_fst, ← h]
  rfl

/-- The tree of a build is to be noted, and a text that it shows holds half of a surrogate pair. -/
def Unencodable (options : Options) (c : Compiled) : Prop :=
  options.logTree = true ∧ (shownTexts c.body).any hasSurrogate = true

instance (options : Options) (c : Compiled) : Decidable (Unencodable options c) :=
  inferInstanceAs (Decidable (_ ∧ _))

theorem not_unencodable {options : Options} (h : options.logTree = false) (c : Compiled) :
    ¬Unencodable options c := fun hu => Bool.false_ne_true (h.symm.trans hu.1)

def outcome (options : Options) (templates : Template.Renderer) (c : Compiled) :
    Except Fault String :=
  if Unencodable options c then .error (.draft .unencodable)
  else (assemble c templates).mapError .template

/-- What a compile notes about the tree that it has built. -/
def noted (options : Options) : Except Fault Compiled → Journal
  | .error _ => []
  | .ok c => (treeNotices options c).toOption.getD []

theorem treeNotices_of_unencodable {options : Options} (h : Unencodable options c) :
    treeNotices options c = .error .unencodable := by
  rw [treeNotices, if_pos h.1, Outline.encoded?, hasSurrogate_dump_ofScript, if_pos h.2]

theorem exists_treeNotices {options : Options} (h : ¬Unencodable options c) :
    ∃ notices, treeNotices options c = .ok notices := by
  rw [treeNotices]
  split
  · next logged =>
    rw [Outline.encoded?, hasSurrogate_dump_ofScript, if_neg fun hs => h ⟨logged, hs⟩]
    exact ⟨_, rfl⟩
  · exact ⟨[], rfl⟩

theorem compile_of_built (h : (build r co).1 = .ok c) (options : Options)
    (templates : Template.Renderer) :
    compile r options co templates =
      (outcome options templates c, (build r co).2 ++ noted options (.ok c)) := by
  unfold compile
  generalize build r co = result at h ⊢
  obtain ⟨x, journal⟩ := result
  cases h
  by_cases hu : Unencodable options c
  · simp only [outcome, noted, if_pos hu, treeNotices_of_unencodable hu]
    rw [Except.toOption, Option.getD_none, List.append_nil]
  · obtain ⟨notices, hn⟩ := exists_treeNotices hu
    simp only [outcome, noted, if_neg hu, hn]
    rfl

theorem compile_of_failed {f : Fault} (h : (build r co).1 = .error f) (options : Options)
    (templates : Template.Renderer) :
    compile r options co templates = (.error f, (build r co).2) := by
  unfold compile
  generalize build r co = result at h ⊢
  obtain ⟨x, journal⟩ := result
  cases h
  rfl

theorem compile_snd (r : Resolution) (options : Options) (co : Option Entries)
    (templates : Template.Renderer) :
    (compile r options co templates).2 = (build r co).2 ++ noted options (build r co).1 := by
  cases h : (build r co).1 with
  | error f => rw [compile_of_failed h, noted, List.append_nil]
  | ok c => rw [compile_of_built h]

theorem compile_fst (h : (build r co).1 = .ok c) (options : Options)
    (templates : Template.Renderer) :
    (compile r options co templates).1 = outcome options templates c := by
  rw [compile_of_built h]

theorem compile_fst_error {f : Fault} (h : (build r co).1 = .error f) (options : Options)
    (templates : Template.Renderer) : (compile r options co templates).1 = .error f := by
  rw [compile_of_failed h]

/-- A compile fails as its build does, or its tree cannot be noted, or the templates fail. -/
theorem fault_of_compile {f : Fault} {options : Options}
    (h : (compile r options co templates).1 = .error f) :
    (build r co).1 = .error f ∨
      (∃ c, (build r co).1 = .ok c ∧ Unencodable options c ∧ f = .draft .unencodable) ∨
      ∃ c t, (build r co).1 = .ok c ∧ assemble c templates = .error t ∧ f = .template t := by
  cases hb : (build r co).1 with
  | error g =>
    rw [compile_fst_error hb] at h
    cases h
    exact .inl rfl
  | ok c =>
    rw [compile_fst hb, outcome] at h
    split at h
    · next hu =>
      cases h
      exact .inr (.inl ⟨c, rfl, hu, rfl⟩)
    · cases ha : assemble c templates with
      | error t =>
        rw [ha] at h
        cases h
        exact .inr (.inr ⟨c, t, rfl, ha, rfl⟩)
      | ok text =>
        rw [ha] at h
        cases h

theorem outcome_packaged (options : Options) (c : Compiled) :
    outcome options Template.packaged c =
      if Unencodable options c then .error (.draft .unencodable) else .ok (packagedText c) := by
  rw [outcome, assemble_packaged]
  rfl

theorem compilePayload_packaged {p : Payload} (h : (buildPayload p co).1 = .ok c)
    (options : Options) :
    (compilePayload p options co Template.packaged).1 =
      if Unencodable options c then .error (.draft .unencodable) else .ok (packagedText c) := by
  rw [buildPayload_fst] at h
  rw [compilePayload_fst, compile_fst h, outcome_packaged]

theorem compilePayload_of_quiet {p : Payload} (h : (buildPayload p co).1 = .ok c)
    {options : Options} (quiet : options.logTree = false) :
    (compilePayload p options co Template.packaged).1 = .ok (packagedText c) :=
  (compilePayload_packaged h options).trans (if_neg (not_unencodable quiet c))

theorem exists_of_compile (h : (build r co).1 = .ok c) {options : Options}
    {templates : Template.Renderer} {text : String}
    (ht : (compile r options co templates).1 = .ok text) :
    ∃ header footer, templates "header.sh" (headerContext c) = .ok header ∧
      templates "footer.sh" [] = .ok footer ∧
      text = joinLines [header, c.body.render 0, footer] := by
  rw [compile_fst h, outcome] at ht
  split at ht
  · cases ht
  unfold assemble at ht
  cases hh : templates "header.sh" (headerContext c) with
  | error e =>
    rw [hh] at ht
    cases ht
  | ok header =>
    cases hf : templates "footer.sh" [] with
    | error e =>
      rw [hh, hf] at ht
      cases ht
    | ok footer =>
      rw [hh, hf] at ht
      cases ht
      exact ⟨header, footer, rfl, rfl, rfl⟩

end BuildScript.Compiler

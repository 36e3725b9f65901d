import BuildScript.Profile.Shared
import BuildScript.Proofs.Draft.Steady
import BuildScript.Proofs.Environment.Notation
import BuildScript.Proofs.Stage.Reads

/-! # Exports of a build

An environment setting declares variables: as one line, as a list of lines or in two sections, where
a line may stand as an encrypted one. The stage that sets the environment exports the variables that
are declared, each once and in the order of their declaration, after the marks of a build and the
variables of the repository.
-/

namespace BuildScript

namespace Environment

/-! ## Declared variables -/

/-- A line as a setting. All the variables of an encrypted line are secure. -/
inductive DeclaresLine : Setting → List Variable → Prop
  | plain {line : String} {vs : List Variable} (h : Written vs line.toList) :
    DeclaresLine (.text line) vs
  | encrypted {line : String} {vs : List Variable} (h : Written vs line.toList) :
    DeclaresLine (.mapping [(.text "secure", .text line)]) (vs.map (Variable.under true))

/-- The variables that an environment setting declares. A section that is missing is null. -/
inductive Declares : Setting → List Variable → Prop
  | absent : Declares .null []
  | line {s : Setting} {vs : List Variable} (h : DeclaresLine s vs) : Declares s vs
  | list {items : List Setting} {vss : List (List Variable)}
    (h : List.Forall₂ DeclaresLine items vss) : Declares (.list items) vss.flatten
  | sections {es : Entries} {vs ws : List Variable}
    (hs : (Entries.contains es "global" || Entries.contains es "matrix") = true)
    (hg : Declares (Entries.get es "global") vs) (hm : Declares (Entries.get es "matrix") ws) :
    Declares (.mapping es) (vs ++ ws)

theorem DeclaresLine.lines_eq {s : Setting} {vs : List Variable} (h : DeclaresLine s vs) :
    lines s = [s] := by
  cases h <;> rfl

theorem DeclaresLine.ofLine_eq {s : Setting} {vs : List Variable} (h : DeclaresLine s vs) :
    ofLine s = vs := by
  cases h with
  | @plain line vs h =>
    change parse line = vs
    rw [parse_of_written h]
    exact List.map_id vs
  | encrypted h => exact parse_of_written h true

theorem Declares.variables {s : Setting} {vs : List Variable} (h : Declares s vs) :
    (lines s).flatMap ofLine = vs := by
  induction h with
  | absent => rfl
  | line h => simp [h.lines_eq, h.ofLine_eq]
  | @list items vss h =>
    change items.flatMap ofLine = _
    induction h with
    | nil => rfl
    | cons hl _ ih => simp [hl.ofLine_eq, ih]
  | @sections es vs ws hs _ _ hg hm =>
    rw [lines, if_pos hs, sectionLines_eq, sectionLines_eq, List.flatMap_append, hg, hm]

end Environment

open Environment Drafting Shell

/-! ## Exported variables -/

def Environment.Variable.toExport (v : Variable) : Export := ⟨v.key, v.value, v.echo, v.secure⟩

namespace Profile

def markers : List Export := [
  { key := "CIBUILD", value := "true", echo := false },
  { key := "CI", value := "true", echo := false },
  { key := "CONTINUOUS_INTEGRATION", value := "true", echo := false }]

def groupNodes (g : Group) : List Node :=
  (if g.isAnnounced then [.command {
    text := messageLine ("Setting environment variables from " ++ g.source) (some Color.green.name) }]
  else []) ++ g.members.map fun v => .assign v.toExport

def environmentNodes (gs : List Group) : List Node :=
  markers.map Node.assign ++ ((if gs.any Group.isAnnounced then [.raw "echo"] else []) ++
    (gs.flatMap groupNodes ++ if gs.any Group.isAnnounced then [.raw "echo"] else []))

theorem writes_exportGroup (g : Group) : Writes (exportGroup g) () (groupNodes g) [] := by
  have members := Writes.forM (fun v : Variable => writes_append (.assign v.toExport)) g.members
  rw [← List.map_eq_flatMap] at members
  exact Writes.when (k := fun _ => g.members.forM fun v => assign v.toExport)
    (writes_command _ "") members

theorem writes_environment {b : Build} {gs : List Group} (h : Environment.groups b = .ok gs) :
    Writes (environment b) () (environmentNodes gs) [] := by
  have last : Writes (if gs.any Group.isAnnounced = true then newline else pure ()) ()
      (if gs.any Group.isAnnounced = true then [.raw "echo"] else []) [] := by
    split
    · exact writes_append _
    · exact Writes.pure ()
  have groups := (Writes.forM writes_exportGroup gs).bind (k := fun _ => _) last
  have body := Writes.when (c := gs.any Group.isAnnounced = true) (k := fun _ => do
    gs.forM exportGroup
    if gs.any Group.isAnnounced = true then newline) (writes_append (.raw "echo")) groups
  simp only [environment, h, Drafting.read, pure_bind]
  exact (writes_append _).bind ((writes_append _).bind ((writes_append _).bind body))

def exports (ns : List Node) : List Export :=
  ns.filterMap fun
    | .assign e => some e
    | _ => none

theorem exports_append (ns ms : List Node) : exports (ns ++ ms) = exports ns ++ exports ms :=
  List.filterMap_append

theorem exports_assigns (es : List Export) : exports (es.map Node.assign) = es := by
  induction es with
  | nil => rfl
  | cons e rest ih => exact congrArg (e :: ·) ih

theorem exports_groupNodes (g : Group) :
    exports (groupNodes g) = g.members.map Variable.toExport := by
  have members := exports_assigns (g.members.map Variable.toExport)
  rw [List.map_map] at members
  rw [groupNodes, exports_append]
  split <;> exact members

theorem exports_environmentNodes (gs : List Group) :
    exports (environmentNodes gs) = markers ++ gs.flatMap fun g => g.members.map Variable.toExport := by
  have gap : exports (if gs.any Group.isAnnounced then [.raw "echo"] else []) = [] := by
    split <;> rfl
  have groups : exports (gs.flatMap groupNodes) = gs.flatMap fun g => exports (groupNodes g) :=
    List.filterMap_flatMap
  simp only [environmentNodes, exports_append, exports_assigns, gap, groups, exports_groupNodes,
    List.nil_append, List.append_nil]

/-- A line that is written down is read as its variables, and the variables that an environment
setting declares are exported after the marks of a build and the variables of the repository, each
once and in the order of their declaration. -/
theorem declared_variables_exported :
    (∀ vs line, Written vs line.toList → parse line = vs) ∧
    ∀ b env vs, b.setting "env" = .ok env → Declares env vs →
      ∃ ns, Writes (environment b) () ns [] ∧
        exports ns = markers ++ b.payload.envVars.map (fun v => (ofRepository v).toExport) ++
          vs.map Variable.toExport := by
  refine ⟨fun vs line h => ?_, fun b env vs hs hd => ?_⟩
  · rw [parse_of_written h]
    exact List.map_id vs
  · have hg : groups b = .ok [⟨"repository settings", b.payload.envVars.map ofRepository⟩,
        ⟨specFile, vs⟩] := by
      rw [groups, hs, ← hd.variables]
      rfl
    refine ⟨_, writes_environment hg, ?_⟩
    simp [exports_environmentNodes]

/-- Keys that begin like a mark, an empty value in front of a key, and one value in each form. -/
def mixedLine : String :=
  "SECURE=x SECURE\u00a0TOKEN=\"a\\\"b\\\\\" EMPTY= SECURE_2='it is'\nD=$(date \"+%s\")"

def mixedVariables : List Variable := [
  ⟨"SECURE", "x", false, true⟩, ⟨"TOKEN", "\"a\\\"b\\\\\"", true, true⟩,
  ⟨"EMPTY", "", false, true⟩, ⟨"SECURE_2", "'it is'", false, true⟩,
  ⟨"D", "$(date \"+%s\")", false, true⟩]

theorem written_mixedLine : Written mixedVariables mixedLine.toList := by
  have blank (c : Char) (h : Text.isBlank c = true) : IsGap [c] := ⟨nofun, by simpa using h⟩
  have name : Spells ⟨"SECURE", "x", false, true⟩ "SECURE=x".toList :=
    .plain ⟨rfl, rfl⟩ (.bare rfl (by decide))
  have token : Spells ⟨"TOKEN", "\"a\\\"b\\\\\"", true, true⟩
      "SECURE\u00a0TOKEN=\"a\\\"b\\\\\"".toList :=
    .marked (blank '\u00a0' rfl) ⟨rfl, rfl⟩ (.doubleQuoted ['a', '"', 'b', '\\'])
  have empty : Spells ⟨"EMPTY", "", false, true⟩ "EMPTY=".toList :=
    .plain ⟨rfl, rfl⟩ (.bare rfl (by decide))
  have quoted : Spells ⟨"SECURE_2", "'it is'", false, true⟩ "SECURE_2='it is'".toList :=
    .plain ⟨rfl, rfl⟩ (.singleQuoted "it is".toList (by decide))
  have date : Spells ⟨"D", "$(date \"+%s\")", false, true⟩ "D=$(date \"+%s\")".toList :=
    .plain ⟨rfl, rfl⟩ (.substitution "date \"+%s\"".toList (by decide))
  have line : mixedLine.toList = "SECURE=x".toList ++ ([' '] ++
      ("SECURE\u00a0TOKEN=\"a\\\"b\\\\\"".toList ++ ([' '] ++ ("EMPTY=".toList ++ ([' '] ++
        ("SECURE_2='it is'".toList ++ (['\n'] ++ "D=$(date \"+%s\")".toList))))))) := by
    decide +kernel
  rw [line]
  exact .cons name (blank ' ' rfl) (.cons token (blank ' ' rfl) (.cons empty (blank ' ' rfl)
    (.cons quoted (blank '\n' rfl) (.last date))))

/-- Sections of which the second is written first, with an encrypted line in a list. -/
def sectionedEnv : Setting := .mapping [
  (.text "matrix", .text "M=1"),
  (.text "global", .list [.text mixedLine, .mapping [(.text "secure", .text "K=v")]])]

def sectionedVariables : List Variable :=
  mixedVariables ++ [⟨"K", "v", true, true⟩, ⟨"M", "1", false, true⟩]

theorem declares_sectionedEnv : Declares sectionedEnv sectionedVariables := by
  have secret : Written [⟨"K", "v", false, true⟩] "K=v".toList :=
    .last (.plain ⟨rfl, rfl⟩ (.bare rfl (by decide)))
  have single : Written [⟨"M", "1", false, true⟩] "M=1".toList :=
    .last (.plain ⟨rfl, rfl⟩ (.bare rfl (by decide)))
  change Declares sectionedEnv ([mixedVariables, [⟨"K", "v", true, true⟩]].flatten ++ _)
  exact .sections rfl
    (.list (.cons (.plain written_mixedLine) (.cons (.encrypted secret) .nil)))
    (.line (.plain single))

theorem declared_variables_exported_sections :
    parse mixedLine = mixedVariables ∧
    ∃ ns, Writes (environment { config := .mapping [(.text "env", sectionedEnv)] }) () ns [] ∧
      exports ns = markers ++ sectionedVariables.map Variable.toExport :=
  ⟨declared_variables_exported.1 _ _ written_mixedLine,
    declared_variables_exported.2 _ _ _ rfl declares_sectionedEnv⟩

end Profile

end BuildScript

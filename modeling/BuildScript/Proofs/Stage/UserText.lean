import BuildScript.Proofs.Setting.Distinct
import BuildScript.Proofs.Shell.Quoting
import BuildScript.Proofs.Stage.Completed
import BuildScript.Proofs.Stage.Result

/-! # The text of the user's commands

Between its addons a custom stage with commands of the user writes these and nothing else. Each
stands in the rendered script as it was given, with its first line indented, among the statements
that preview it, time it and look at its status.
-/

namespace BuildScript

open Shell Drafting Capability Text

namespace Pipeline

/-- The statements around a command of the user, and the command itself as it was given. -/
def userStatements (stage : Stage) (label text : String) : List String :=
  if stage = .script then [
    "cibuild_time_start",
    "echo " ++ shellQuote ("$ " ++ text),
    text,
    "cibuild_time_finish",
    "cibuild_result $?"]
  else [
    "cibuild_fold start " ++ label,
    "  cibuild_time_start",
    "  echo " ++ shellQuote ("$ " ++ text),
    indented 1 text,
    "  cibuild_time_finish"] ++
    (if stage.isAsserted then ["  cibuild_assert"] else []) ++
    ["cibuild_fold end " ++ label]

theorem safe_foldLabel (stage : Stage) (count index : Nat) :
    (foldLabel stage.name count index).toList.all isShellSafe = true ∧
      foldLabel stage.name count index ≠ "" := by
  have hs : stage.name.toList.all isShellSafe = true := by cases stage <;> decide
  have hn : stage.name ≠ "" := by cases stage <;> decide
  have dot : isShellSafe '.' = true := by decide
  unfold foldLabel
  split
  · exact ⟨hs, hn⟩
  · rw [ne_eq, ← String.toList_inj]
    simp [String.toList_append, hs, dot, (safe_decimal index).1]

theorem statements_testNodes (text label : String) :
    statements 0 (Profile.testNodes text false) = userStatements .script label text := by
  have outer (p : Piece) : Placed.text ⟨0, p⟩ = p.text := indented_zero p.text
  change [Placed.text ⟨0, _⟩, Placed.text ⟨0, _⟩, Placed.text ⟨0, _⟩, Placed.text ⟨0, _⟩,
    Placed.text ⟨0, _⟩] = _
  simp only [outer]
  rfl

theorem statements_commandNodes {stage : Stage} (hs : stage ≠ .script) (text : String)
    (count index : Nat) :
    statements 0 (commandNodes
      { text := text, echo := true, asserted := stage.isAsserted, timing := true }
      (foldLabel stage.name count index)) =
        userStatements stage (foldLabel stage.name count index) text := by
  obtain ⟨hl, hn⟩ := safe_foldLabel stage count index
  have quote := shellQuote_of_safe hl hn
  generalize foldLabel stage.name count index = label at hn quote ⊢
  have outer (p : Piece) : Placed.text ⟨0, p⟩ = p.text := indented_zero p.text
  have opened : Piece.text (.foldStart label) = "cibuild_fold start " ++ label :=
    congrArg ("cibuild_fold start " ++ ·) quote
  have closed : Piece.text (.foldEnd label) = "cibuild_fold end " ++ label :=
    congrArg ("cibuild_fold end " ++ ·) quote
  have start : Placed.text ⟨1, .timeStart⟩ = "  cibuild_time_start" := rfl
  have stop : Placed.text ⟨1, .timeFinish⟩ = "  cibuild_time_finish" := rfl
  have check : Placed.text ⟨1, .assertResult⟩ = "  cibuild_assert" := rfl
  have shown : Placed.text ⟨1, .preview ("$ " ++ text) none⟩ =
      "  echo " ++ shellQuote ("$ " ++ text) := by
    refine (indented_of_toList (String.toList_append ..) (by decide) 1).trans ?_
    change indentation 1 ++ ("echo " ++ shellQuote ("$ " ++ text)) = _
    rw [← String.append_assoc]
    rfl
  rw [commandNodes, if_neg hn, userStatements, if_neg hs, ← opened, ← closed, ← start, ← stop,
    ← check, ← shown, ← outer, ← outer]
  cases stage.isAsserted <;> rfl

def userText (stage : Stage) (texts : List String) : List String :=
  (texts.zipIdx 1).flatMap fun (text, index) =>
    userStatements stage (foldLabel stage.name texts.length index) text

theorem statements_foldedNodes {stage : Stage} (hs : stage ≠ .script) (count index : Nat)
    (texts : List String) :
    statements 0 (foldedNodes stage.name stage.isAsserted count index texts) =
      (texts.zipIdx index).flatMap fun (text, index) =>
        userStatements stage (foldLabel stage.name count index) text := by
  induction texts generalizing index with
  | nil => rfl
  | cons text rest ih =>
    rw [foldedNodes, statements_append, statements_commandNodes hs, ih, List.zipIdx_cons,
      List.flatMap_cons]

theorem statements_userNodes (stage : Stage) (texts : List String) :
    statements 0 (userNodes stage texts) = userText stage texts := by
  unfold userNodes userText
  split
  · next hs =>
    subst hs
    have from_any (count index : Nat) :
        statements 0 (texts.flatMap fun text => Profile.testNodes text false) =
          (texts.zipIdx index).flatMap fun (text, index) =>
            userStatements .script (foldLabel "script" count index) text := by
      induction texts generalizing index with
      | nil => rfl
      | cons text rest ih =>
        rw [List.flatMap_cons, statements_append, ih (index + 1), List.zipIdx_cons,
          List.flatMap_cons, statements_testNodes text]
    exact from_any _ _
  · next hs => exact statements_foldedNodes hs _ _ texts

end Pipeline

namespace Compiler

variable {r : Resolution} {co : Option Entries} {c : Compiled} {stage : Stage} {texts : List String}

theorem defaults_of_stage (p : Profile) (stage : Stage) :
    Entries.get? p.defaults (.text stage.name) = none := by
  cases p <;> cases stage <;> rfl

theorem Completed.textsOf_eq (h : Completed r co c) (hd : Entries.Distinct r.payload.config)
    (stage : Stage) :
    c.build.textsOf stage.name = (Entries.get r.payload.config stage.name).texts .sealed := by
  have hg := hd.get?_overlay (defaults_of_stage c.profile stage)
  rw [h.build, Build.textsOf, Build.setting, buildFor, Profile.mergedConfig, Setting.get_mapping,
    Entries.get, hg]
  rfl

theorem alone_between (p : Profile) (b : Build) (hr : stage ≠ .afterResult) (hn : texts ≠ []) :
    alone (p.between b stage texts) = Pipeline.userNodes stage texts := by
  have hb : ¬(texts.isEmpty || decide (stage = .afterResult)) = true := by
    simp [hr, hn]
  rw [Profile.between, if_neg hb, (Pipeline.writes_userCommands stage texts).alone_eq]

/-- Between what its addons write, a custom stage with commands of the user writes these and
nothing else, each once and as it was given, and a compiled text holds them so. -/
theorem user_commands_written_once (h : (build r co).1 = .ok c) (hc : c.finish.isSome)
    (hd : Entries.Distinct r.payload.config) (hk : stage.kind = .custom)
    (hr : stage ≠ .afterResult)
    (ht : (Entries.get r.payload.config stage.name).texts .sealed = .ok texts) (hn : texts ≠ []) :
    (∃ earlier later, Stage.all = earlier ++ stage :: later ∧
      c.body.render 0 = joinLines (
        statements 0 (r.status.nodes ++ earlier.flatMap (c.profile.nodes c.build)) ++
        statements 0 (alone (runAddons c.build ("before_" ++ stage.name))) ++
        Pipeline.userText stage texts ++
        statements 0 (alone (runAddons c.build ("after_" ++ stage.name))) ++
        statements 0 (later.flatMap (c.profile.nodes c.build)))) ∧
    ∀ options templates text, (compile r options co templates).1 = .ok text →
      ∃ header footer, templates "header.sh" (headerContext c) = .ok header ∧
        templates "footer.sh" [] = .ok footer ∧
        text = joinLines [header, c.body.render 0, footer] := by
  refine ⟨?_, fun _ _ _ => exists_of_compile h⟩
  have done := completed_of_finish h hc
  have parts := done.parts hk ((done.textsOf_eq hd stage).trans ht)
  obtain ⟨earlier, later, hs⟩ := List.append_of_mem stage.mem_all
  refine ⟨earlier, later, hs, ?_⟩
  rw [Script.render_eq, done.body, hs, List.flatMap_append, List.flatMap_cons, parts.nodes,
    alone_between _ _ hr hn]
  simp only [statements_append, Pipeline.statements_userNodes, List.append_assoc]

def multilineSpec : Resolution where
  payload := { config := .ofList [
    (.text "language", .text "java"),
    (.text "install", .list [.text "if true; then\n  make\nfi", .text ""])] }

theorem user_commands_written_once_multiline :
    ∃ c before after, (build multilineSpec none).1 = .ok c ∧
      c.body.render 0 = joinLines (before ++ [
        "cibuild_fold start install.1",
        "  cibuild_time_start",
        "  echo '$ if true; then\n  make\nfi'",
        "  if true; then\n  make\nfi",
        "  cibuild_time_finish",
        "  cibuild_assert",
        "cibuild_fold end install.1",
        "cibuild_fold start install.2",
        "  cibuild_time_start",
        "  echo '$ '",
        "",
        "  cibuild_time_finish",
        "  cibuild_assert",
        "cibuild_fold end install.2"] ++ after) := by
  obtain ⟨c, hb, hc⟩ := exists_of_any (P := fun c => c.finish.isSome)
    (show (build multilineSpec none).1.toOption.any _ = true by decide +kernel)
  have ht : (Entries.get multilineSpec.payload.config Stage.install.name).texts .sealed =
      .ok ["if true; then\n  make\nfi", ""] := rfl
  obtain ⟨⟨_, _, -, h⟩, -⟩ := user_commands_written_once hb hc (Entries.distinct_ofList _) rfl
    (by decide) ht (List.cons_ne_nil _ _)
  exact ⟨c, _, _, hb, h.trans (congrArg joinLines (List.append_assoc _ _ _))⟩

end Compiler

end BuildScript

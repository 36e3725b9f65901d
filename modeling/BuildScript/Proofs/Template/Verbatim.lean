import BuildScript.Proofs.Stage.Result
import BuildScript.Proofs.Template.Source

/-! # The text between the templates

A script is fixed text around two texts that are rendered before any template is looked at: the exit
hook and the body. Neither is read as a template, whatever stands in it.
-/

namespace BuildScript.Compiler

open Template

def scriptStart : String := headerBefore version (decimal retryAttempts)

/-- What stands in the exit hook: its commands one level deep, or a statement that does nothing. -/
def hookText : Option Shell.Script → String
  | none => "  :"
  | some s => if s.render 1 = "" then "  :" else s.render 1

def scriptTraps : String := "\n" ++ headerEnd

/-- The text of a build between fixed texts. -/
def scriptText (c : Compiled) : String :=
  scriptStart ++ hookText c.finish ++ scriptTraps ++ "\n" ++ c.body.render 0 ++ "\n" ++ footerText

theorem hookBody_finishText (c : Compiled) :
    hookBody (finishText c) = hookText c.finish ++ "\n" := by
  rw [hookBody, finishText]
  cases c.finish with
  | none => rfl
  | some s =>
    simp only [Option.map_some, Option.getD_some, hookText]
    split <;> rfl

theorem packagedText_eq_scriptText (c : Compiled) : packagedText c = scriptText c := by
  rw [packagedText, hookBody_finishText, Text.joinLines_cons (List.cons_ne_nil _ _),
    Text.joinLines_cons (List.cons_ne_nil _ _), Text.joinLines, String.intercalate_singleton]
  simp only [scriptText, scriptStart, scriptTraps, String.append_assoc]

theorem compile_packaged (r : Resolution) (options : Options) (cacheOptions : Option Entries) :
    (compile r options cacheOptions packaged).1 = (build r cacheOptions).1.bind fun c =>
      if Unencodable options c then .error (.draft .unencodable) else .ok (scriptText c) := by
  cases built : (build r cacheOptions).1 with
  | error e => exact compile_fst_error built options packaged
  | ok c =>
    rw [compile_fst built, outcome_packaged, packagedText_eq_scriptText]
    rfl

/-- The packaged templates are what their files are read as, and a build whose tree can be noted has
its text with them: the exit hook and the body as they are rendered, between texts that no build
changes. -/
theorem user_text_untouched :
    packaged = ofFiles packagedFile ∧
    ∀ (r : Resolution) (options : Options) (cacheOptions : Option Entries),
      (compile r options cacheOptions packaged).1 =
        (build r cacheOptions).1.bind fun c =>
          if Unencodable options c then .error (.draft .unencodable)
          else .ok (scriptStart ++ hookText c.finish ++ scriptTraps ++ "\n" ++ c.body.render 0 ++
            "\n" ++ footerText) :=
  ⟨packaged_eq_ofFiles, compile_packaged⟩

end BuildScript.Compiler

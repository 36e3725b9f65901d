import BuildScript.Compiler

/-! # The packaged header and footer

Every build is set between the packaged templates: the header takes the text of the exit hook as it
stands, and all of its other text is fixed.
-/

namespace BuildScript

namespace Template

variable {context : Context} {rest : List Part} {more : String}

theorem renderAll_text (s : String) (h : renderAll context rest = .ok more) :
    renderAll context (.text s :: rest) = .ok (s ++ more) := by
  rw [renderAll, Part.render, h]
  rfl

theorem renderAll_value {name : String} {v : Setting} (hv : context.value name = .ok v)
    (h : renderAll context rest = .ok more) :
    renderAll context (.value name :: rest) = .ok (v.written .loose ++ more) := by
  rw [renderAll, Part.render, hv, h]
  rfl

theorem renderAll_choice {name : String} {yes no : List Part} {v : Setting} {chosen : String}
    (hv : context.value name = .ok v)
    (hc : renderAll context (if v.isSet then yes else no) = .ok chosen)
    (h : renderAll context rest = .ok more) :
    renderAll context (.choice name yes no :: rest) = .ok (chosen ++ more) := by
  have hp : Part.render context (.choice name yes no) = .ok chosen := by
    rw [Part.render, hv, ← hc]
    change (if v.isSet then _ else _) = _
    split <;> rfl
  rw [renderAll, hp, h]
  rfl

def headerBefore (version attempts : String) : String :=
  headerStart ++ (version ++ (headerHelpers ++ (attempts ++ (headerAttempt ++ (attempts ++
    (headerGivenUp ++ (attempts ++ (headerFailure ++ (attempts ++ headerTimers)))))))))

/-- The body of the exit hook, which has to hold a statement. -/
def hookBody (text : String) : String := if text = "" then "  :\n" else text ++ "\n"

end Template

namespace Compiler

open Template

theorem packaged_header (c : Compiled) :
    packaged "header.sh" (headerContext c) =
      .ok (headerBefore version (decimal retryAttempts) ++
        (hookBody (finishText c) ++ headerEnd)) := by
  have hv : (headerContext c).value "version" = .ok (.text version) := rfl
  have hr : (headerContext c).value "retry_attempts" = .ok (.int retryAttempts) := rfl
  have hf : (headerContext c).value "finish" = .ok (.text (finishText c)) := rfl
  have hook : renderAll (headerContext c) (if (Setting.text (finishText c)).isSet then
      [.value "finish", .text "\n"] else [.text "  :\n"]) = .ok (hookBody (finishText c)) := by
    by_cases he : finishText c = ""
    · rw [he, hookBody, if_pos rfl]
      rfl
    · have hs : (Setting.text (finishText c)).isSet = true := bne_iff_ne.mpr he
      rw [if_pos hs, renderAll_value hf (renderAll_text "\n" rfl), hookBody, if_neg he]
      rfl
  refine (renderAll_text _ <| renderAll_value hv <| renderAll_text _ <| renderAll_value hr <|
    renderAll_text _ <| renderAll_value hr <| renderAll_text _ <| renderAll_value hr <|
    renderAll_text _ <| renderAll_value hr <| renderAll_text _ <| renderAll_choice hf hook <|
    renderAll_text _ rfl).trans ?_
  simp [headerBefore, String.append_assoc, Setting.written, Scalar.written, Scalar.shown]

theorem packaged_footer : packaged "footer.sh" [] = .ok footerText :=
  (renderAll_text _ rfl).trans (congrArg Except.ok String.append_empty)

def packagedText (c : Compiled) : String :=
  Text.joinLines [
    headerBefore version (decimal retryAttempts) ++ (hookBody (finishText c) ++ headerEnd),
    c.body.render 0, footerText]

theorem assemble_packaged (c : Compiled) : assemble c packaged = .ok (packagedText c) := by
  rw [assemble, packaged_header, packaged_footer]
  rfl

end Compiler

end BuildScript

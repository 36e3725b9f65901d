import Mathlib.Algebra.BigOperators.Ring.List
import Mathlib.Algebra.Order.BigOperators.Group.List
import Mathlib.Algebra.Order.Ring.Nat
import BuildScript.Proofs.Shell.Layout
import BuildScript.Proofs.Template.Packaged

/-! # Occurrences of characters

How often a character stands in a script. A character other than the quotes is neither lost nor
added when a text is quoted, and one that is not blank stands in a statement as often as in the text
of its piece. So scripts with different numbers of it have different texts.
-/

namespace BuildScript

variable {c : Char}

namespace Text

def occurrences (c : Char) (s : String) : Nat := s.toList.count c

@[simp] theorem occurrences_empty (c : Char) : occurrences c "" = 0 := rfl

@[simp] theorem occurrences_append (c : Char) (s t : String) :
    occurrences c (s ++ t) = occurrences c s + occurrences c t := by
  simp [occurrences, String.toList_append, List.count_append]

theorem occurrences_intercalate (c : Char) (sep s : String) (ls : List String) :
    occurrences c (sep.intercalate (s :: ls)) =
      occurrences c s + (ls.map fun t => occurrences c sep + occurrences c t).sum := by
  induction ls generalizing s with
  | nil => simp
  | cons t rest ih =>
    rw [String.intercalate_cons_of_ne_nil (List.cons_ne_nil t rest), occurrences_append,
      occurrences_append, ih, List.map_cons, List.sum_cons]
    omega

theorem occurrences_joinLines (hc : c ≠ '\n') (ls : List String) :
    occurrences c (joinLines ls) = (ls.map (occurrences c)).sum := by
  have hn : occurrences c "\n" = 0 := List.count_eq_zero.mpr (by simpa using hc)
  cases ls with
  | nil => rfl
  | cons s rest =>
    rw [joinLines, occurrences_intercalate, hn, List.map_cons, List.sum_cons]
    simp only [Nat.zero_add]

theorem occurrences_shellQuote (hs : c ≠ '\'') (hd : c ≠ '"') (s : String) :
    occurrences c (shellQuote s) = occurrences c s := by
  have escape (d : Char) : (shellEscape d).count c = [d].count c := by
    unfold shellEscape
    split
    · next h =>
      rw [h]
      simp [hs.symm, hd.symm]
    · rfl
  have escapes (cs : List Char) : (cs.flatMap shellEscape).count c = cs.count c := by
    induction cs with
    | nil => rfl
    | cons d rest ih =>
      rw [List.flatMap_cons, List.count_append, escape, ih, ← List.count_append]
      rfl
  unfold occurrences shellQuote shellQuoteChars
  rw [String.toList_ofList]
  split
  · next h => simp [h, hs.symm]
  · split
    · rfl
    · simp [List.count_append, escapes, hs.symm]

end Text

namespace Shell

open Text

def occurrences (c : Char) (level : Int) (ns : List Node) : Nat :=
  ((statements level ns).map (Text.occurrences c)).sum

@[simp] theorem occurrences_append (c : Char) (level : Int) (ns ms : List Node) :
    occurrences c level (ns ++ ms) = occurrences c level ns + occurrences c level ms := by
  simp [occurrences, statements_append]

theorem occurrences_flatMap {α : Type} (c : Char) (level : Int) (nodes : α → List Node)
    (l : List α) :
    occurrences c level (l.flatMap nodes) = (l.map fun a => occurrences c level (nodes a)).sum := by
  induction l with
  | nil => rfl
  | cons a rest ih => rw [List.flatMap_cons, occurrences_append, ih, List.map_cons, List.sum_cons]

theorem sum_map_const_add {α : Type} (k : Nat) (f : α → Nat) (l : List α) :
    (l.map fun a => k + f a).sum = l.length * k + (l.map f).sum := by
  rw [List.sum_map_add, List.map_const', List.sum_replicate_nat]

theorem occurrences_indentation (hc : c ≠ ' ') (level : Int) :
    Text.occurrences c (indentation level) = 0 := by
  rw [Text.occurrences, indentation, String.toList_ofList, List.count_eq_zero]
  intro hm
  exact hc (List.eq_of_mem_replicate hm)

theorem Script.occurrences_render (hc : c ≠ '\n') (s : Script) (level : Int) :
    Text.occurrences c (s.render level) = occurrences c level s := by
  rw [Script.render_eq, occurrences_joinLines hc, occurrences]

theorem Script.render_ne_of_occurrences (hc : c ≠ '\n') {s : Script} {level : Int}
    (h : 0 < occurrences c level s) : s.render level ≠ "" := by
  intro he
  rw [← Script.occurrences_render hc, he] at h
  exact Nat.lt_irrefl 0 h

/-- The first line of a text that opens is not empty, so that the text is indented. -/
def Opens (text : String) : Prop := ∃ d ∈ text.toList.head?, d ≠ '\n'

instance (text : String) : Decidable (Opens text) :=
  decidable_of_iff (text.toList.head?.any (· != '\n') = true) (by simp [Opens, Option.any_eq_true])

theorem Opens.append {s : String} (h : Opens s) (t : String) : Opens (s ++ t) := by
  obtain ⟨d, hd, hn⟩ := h
  refine ⟨d, ?_, hn⟩
  rw [String.toList_append, List.head?_append, hd]
  rfl

theorem Opens.occurrences_indented {text : String} (h : Opens text) (c : Char) (level : Int) :
    Text.occurrences c (indented level text) =
      Text.occurrences c (indentation level) + Text.occurrences c text := by
  obtain ⟨d, hd, hn⟩ := h
  obtain ⟨rest, ht⟩ := List.head?_eq_some_iff.mp hd
  rw [indented_of_toList ht hn, Text.occurrences_append]

theorem exists_messageLine (color : Option String) :
    ∃ front, Opens front ∧ ∀ message, messageLine message color = front ++ shellQuote message := by
  have plain : Opens "echo " := by decide
  have coloured : Opens "printf \"$\x7bANSI_" := by decide
  cases color with
  | none => exact ⟨_, plain, fun _ => rfl⟩
  | some name => exact ⟨_, (coloured.append _).append _, fun _ => rfl⟩

def pieceOccurrences (c : Char) (level : Int) (ps : List Piece) : Nat :=
  (ps.map fun p => Text.occurrences c (Placed.text ⟨level, p⟩)).sum

theorem pieceOccurrences_append (c : Char) (level : Int) (ps qs : List Piece) :
    pieceOccurrences c level (ps ++ qs) = pieceOccurrences c level ps + pieceOccurrences c level qs := by
  simp [pieceOccurrences]

theorem occurrences_command_eq (c : Char) (level : Int) (k : Command) :
    occurrences c level [.command k] = pieceOccurrences c level k.pieces := by
  rw [occurrences, statements, bodyPieces_singleton, Node.pieces, List.map_map, List.map_map]
  rfl

section Command

variable (hs : c ≠ '\'') (hd : c ≠ '"') (level : Int)
include hs hd

theorem occurrences_preview (message : String) (color : Option Color) :
    Text.occurrences c (Placed.text ⟨level, .preview message color⟩) =
      Text.occurrences c (Placed.text ⟨level, .preview "" color⟩) + Text.occurrences c message := by
  obtain ⟨front, opens, line⟩ := exists_messageLine (color.map Color.name)
  have text (m : String) : Placed.text ⟨level, .preview m color⟩ =
      indented level (front ++ shellQuote m) := congrArg (indented level) (line m)
  rw [text, text, (opens.append _).occurrences_indented, (opens.append _).occurrences_indented,
    Text.occurrences_append, Text.occurrences_append, occurrences_shellQuote hs hd,
    occurrences_shellQuote hs hd, Text.occurrences_empty, Nat.add_zero, Nat.add_assoc]

/-- Where a command is shown, it counts for its text unless that is secret. -/
theorem exists_occurrences_shown (echo secure : Bool) (color : Option Color) :
    ∃ front times, ∀ text,
      pieceOccurrences c level (if echo then
        [.preview ("$ " ++ if secure then secret else text) color] else []) =
        front + times * Text.occurrences c text := by
  cases echo with
  | false => exact ⟨0, 0, fun text => by simp [pieceOccurrences]⟩
  | true =>
    cases secure with
    | true =>
      exact ⟨pieceOccurrences c level [.preview ("$ " ++ secret) color], 0, fun text => by simp⟩
    | false =>
      refine ⟨Text.occurrences c (Placed.text ⟨level, .preview "" color⟩) +
        Text.occurrences c "$ ", 1, fun text => ?_⟩
      have preview := occurrences_preview hs hd level ("$ " ++ text) color
      rw [Text.occurrences_append] at preview
      simp only [pieceOccurrences, if_true, Bool.false_eq_true, if_false, List.map_cons,
        List.map_nil, List.sum_cons, List.sum_nil]
      omega

theorem exists_occurrences_command {k : Command} (hr : k.retry = false) :
    ∃ front times, 0 < times ∧ ∀ text, Opens text →
      occurrences c level [.command { k with text := text }] =
        front + times * Text.occurrences c text := by
  obtain ⟨_, echo, asserted, timing, retry, secure, color⟩ := k
  dsimp only at hr ⊢
  subst hr
  obtain ⟨front, times, shown⟩ := exists_occurrences_shown hs hd level echo secure color
  refine ⟨pieceOccurrences c level (if timing then [.timeStart] else []) + front +
    Text.occurrences c (indentation level) +
    pieceOccurrences c level (if timing then [.timeFinish] else []) +
    pieceOccurrences c level (if asserted then [.assertResult] else []),
    times + 1, Nat.succ_pos times, fun text ho => ?_⟩
  have run : pieceOccurrences c level [.run text] =
      Text.occurrences c (indentation level) + Text.occurrences c text :=
    ho.occurrences_indented c level
  rw [occurrences_command_eq, Command.pieces, pieceOccurrences_append, pieceOccurrences_append,
    pieceOccurrences_append, pieceOccurrences_append, Command.shown, shown]
  dsimp only
  rw [if_neg Bool.false_ne_true, run, Nat.add_mul]
  omega

end Command

theorem exists_occurrences_fold (c : Char) (level : Int) (label : String) :
    ∃ front, ∀ ns, occurrences c level [.fold label ns] = front + occurrences c (level + 1) ns := by
  refine ⟨Text.occurrences c (Placed.text ⟨level, .foldStart label⟩) +
    Text.occurrences c (Placed.text ⟨level, .foldEnd label⟩), fun ns => ?_⟩
  simp only [occurrences, statements, bodyPieces_singleton, Node.pieces, List.map_cons,
    List.map_append, List.map_nil, List.sum_cons, List.sum_append, List.sum_nil]
  omega

end Shell

namespace Template

theorem occurrences_hookBody_of_ne (hn : c ≠ '\n') {text : String} (h : text ≠ "") :
    Text.occurrences c (hookBody text) = Text.occurrences c text := by
  rw [hookBody, if_neg h, Text.occurrences_append]
  exact congrArg (_ + ·) (List.count_eq_zero.mpr (by simp [hn]))

theorem occurrences_hookBody (hb : c ≠ ' ') (hc : c ≠ ':') (hn : c ≠ '\n') (text : String) :
    Text.occurrences c (hookBody text) = Text.occurrences c text := by
  by_cases h : text = ""
  · rw [hookBody, if_pos h, h]
    exact List.count_eq_zero.mpr (by simp [hb, hc, hn])
  · exact occurrences_hookBody_of_ne hn h

theorem occurrences_hookBody_render (hn : c ≠ '\n') {d : Char} (hd : d ≠ '\n') {ns : Shell.Script}
    {level : Int} (h : 0 < Shell.occurrences d level ns) :
    Text.occurrences c (hookBody (ns.render level)) = Shell.occurrences c level ns := by
  rw [occurrences_hookBody_of_ne hn (Shell.Script.render_ne_of_occurrences hd h),
    Shell.Script.occurrences_render hn]

end Template

namespace Compiler

/-- Texts differ where one of the scripts has more of a character and the other one has not. -/
theorem packagedText_ne_of_occurrences {c : Char} (hc : c ≠ '\n') {x y : Compiled}
    (hb : Shell.occurrences c 0 x.body < Shell.occurrences c 0 y.body)
    (hf : Text.occurrences c (Template.hookBody (finishText x)) ≤
      Text.occurrences c (Template.hookBody (finishText y))) :
    packagedText x ≠ packagedText y := by
  intro he
  have count := congrArg (Text.occurrences c) he
  simp only [packagedText, Text.occurrences_joinLines hc, List.map_cons, List.map_nil,
    List.sum_cons, List.sum_nil, Text.occurrences_append, Shell.Script.occurrences_render hc] at count
  omega

end Compiler

end BuildScript

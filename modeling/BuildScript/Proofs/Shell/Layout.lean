import BuildScript.Shell.Rendering

/-! # Layout of pieces

The lines of a piece joined again are its text, of which only the first line is indented. So a
rendered script is the indented texts of its pieces, one below the other.
-/

namespace BuildScript

namespace Text

theorem joinLines_cons {ls : List String} (h : ls ≠ []) (s : String) :
    joinLines (s :: ls) = s ++ "\n" ++ joinLines ls := String.intercalate_cons_of_ne_nil h

theorem joinLines_append {ls ms : List String} (hl : ls ≠ []) (hm : ms ≠ []) :
    joinLines (ls ++ ms) = joinLines ls ++ "\n" ++ joinLines ms :=
  String.intercalate_append_of_ne_nil hl hm

theorem joinLines_cons_append (s t : String) (ls : List String) :
    joinLines ((s ++ t) :: ls) = s ++ joinLines (t :: ls) := String.intercalate_cons_append

theorem lines_ne_nil (s : String) : lines s ≠ [] := by simp [lines, linesOfChars_ne_nil]

theorem joinLines_linesOfChars (cs : List Char) :
    joinLines ((linesOfChars cs).map String.ofList) = String.ofList cs := by
  induction cs with
  | nil => rfl
  | cons c rest ih =>
    have hs : String.ofList (c :: rest) = String.ofList [c] ++ String.ofList rest := by
      rw [← String.ofList_append]
      rfl
    unfold linesOfChars
    split
    · next hc =>
      have hn : (linesOfChars rest).map String.ofList ≠ [] := by simp [linesOfChars_ne_nil]
      rw [List.map_cons, joinLines_cons hn, ih, hs, hc]
      rfl
    · split
      · next hl => exact (linesOfChars_ne_nil rest hl).elim
      · next line more hl =>
        rw [hl, List.map_cons] at ih
        have hf : String.ofList (c :: line) = String.ofList [c] ++ String.ofList line := by
          rw [← String.ofList_append]
          rfl
        rw [List.map_cons, hf, joinLines_cons_append, ih, hs]

theorem joinLines_lines (s : String) : joinLines (lines s) = s := by
  rw [lines, joinLines_linesOfChars, String.ofList_toList]

theorem linesOfChars_of_notMem {cs : List Char} (h : '\n' ∉ cs) : linesOfChars cs = [cs] := by
  induction cs with
  | nil => rfl
  | cons c rest ih =>
    obtain ⟨hc, hr⟩ := List.ne_and_not_mem_of_not_mem_cons h
    rw [linesOfChars, if_neg (Ne.symm hc), ih hr]

theorem linesOfChars_append {cs : List Char} (h : '\n' ∉ cs) (rest : List Char) :
    linesOfChars (cs ++ '\n' :: rest) = cs :: linesOfChars rest := by
  induction cs with
  | nil => rfl
  | cons c more ih =>
    obtain ⟨hc, hm⟩ := List.ne_and_not_mem_of_not_mem_cons h
    rw [List.cons_append, linesOfChars, if_neg (Ne.symm hc), ih hm]

theorem lines_joinLines {ls : List String} (hn : ls ≠ []) (h : ∀ s ∈ ls, '\n' ∉ s.toList) :
    lines (joinLines ls) = ls := by
  induction ls with
  | nil => exact absurd rfl hn
  | cons s rest ih =>
    obtain ⟨hs, hr⟩ := List.forall_mem_cons.mp h
    cases rest with
    | nil => simp [lines, joinLines, linesOfChars_of_notMem hs]
    | cons t more =>
      have hl := ih (List.cons_ne_nil t more) hr
      have ht : (joinLines (s :: t :: more)).toList =
          s.toList ++ '\n' :: (joinLines (t :: more)).toList := by
        simp [joinLines_cons (List.cons_ne_nil t more)]
      rw [lines] at hl
      rw [lines, ht, linesOfChars_append hs, List.map_cons, hl, String.ofList_toList]

theorem toList_joinLines {ls : List String} (h : ls ≠ []) :
    (joinLines ls).toList ++ ['\n'] = ls.flatMap fun s => s.toList ++ ['\n'] := by
  induction ls with
  | nil => exact absurd rfl h
  | cons s rest ih =>
    cases rest with
    | nil => simp [joinLines]
    | cons t more =>
      have hr := ih (List.cons_ne_nil t more)
      rw [joinLines_cons (List.cons_ne_nil t more), List.flatMap_cons, ← hr]
      simp

theorem length_le_flatMap (ls : List String) :
    ls.length ≤ (ls.flatMap fun s => s.toList ++ ['\n']).length := by
  induction ls with
  | nil => exact Nat.le_refl 0
  | cons s rest ih =>
    rw [List.flatMap_cons, List.length_append, List.length_append, List.length_cons,
      List.length_singleton]
    omega

/-- A text with two lines more is another text. -/
theorem joinLines_insert_ne {ls ms ks : List String} (h : 1 < ms.length) :
    joinLines (ls ++ (ms ++ ks)) ≠ joinLines (ls ++ ks) := by
  intro he
  have hm := length_le_flatMap ms
  have long : ls ++ (ms ++ ks) ≠ [] := by
    cases ms with
    | nil => cases h
    | cons => simp
  have hl := congrArg List.length (toList_joinLines long)
  rw [he] at hl
  simp only [List.flatMap_append, List.length_append] at hl
  by_cases hn : ls ++ ks = []
  · obtain ⟨rfl, rfl⟩ := List.append_eq_nil_iff.mp hn
    simp only [joinLines, List.append_nil, String.intercalate_nil, String.toList_empty,
      List.flatMap_nil, List.length_nil, List.length_singleton] at hl
    omega
  · have hr := congrArg List.length (toList_joinLines hn)
    simp only [List.flatMap_append, List.length_append] at hr
    omega

theorem joinLines_flatMap {α : Type} {f : α → List String} (h : ∀ a, f a ≠ []) (l : List α) :
    joinLines (l.flatMap f) = joinLines (l.map fun a => joinLines (f a)) := by
  induction l with
  | nil => rfl
  | cons a rest ih =>
    cases rest with
    | nil => simp [joinLines]
    | cons b more =>
      have hf : (b :: more).flatMap f ≠ [] := by simp [h]
      have hm : (b :: more).map (fun a => joinLines (f a)) ≠ [] := List.cons_ne_nil _ _
      rw [List.flatMap_cons, joinLines_append (h a) hf, ih]
      exact (joinLines_cons hm _).symm

end Text

namespace Shell

open Text

theorem bodyPieces_append (level : Int) (ns ms : List Node) :
    bodyPieces level (ns ++ ms) = bodyPieces level ns ++ bodyPieces level ms := by
  induction ns with
  | nil => rfl
  | cons n rest ih => rw [List.cons_append, bodyPieces, ih, bodyPieces, List.append_assoc]

theorem bodyPieces_singleton (level : Int) (n : Node) : bodyPieces level [n] = n.pieces level :=
  List.append_nil _

theorem Node.pieces_ne_nil (level : Int) (n : Node) : n.pieces level ≠ [] := by
  cases n <;> simp [Node.pieces, Command.pieces, Export.pieces]

theorem bodyPieces_ne_nil {ns : List Node} (h : ns ≠ []) (level : Int) : bodyPieces level ns ≠ [] := by
  obtain ⟨n, rest, rfl⟩ := List.exists_cons_of_ne_nil h
  exact mt (fun h => (List.append_eq_nil_iff.mp h).1) (n.pieces_ne_nil level)

/-- The pieces between the line that opens an arm and the next line of its conditional. -/
def armPieces (level : Int) (body : List Node) : List Placed :=
  if body = [] then [⟨level, .placeholder⟩] else bodyPieces level body

theorem armPieces_ne_nil (level : Int) (body : List Node) : armPieces level body ≠ [] := by
  unfold armPieces
  split
  · exact List.cons_ne_nil _ _
  · next h => exact bodyPieces_ne_nil h level

theorem branchPieces_cons (level : Int) (first : Bool) (test : Option String) (body : List Node)
    (rest : List Branch) :
    branchPieces level first (⟨test, body⟩ :: rest) =
      ⟨level, headPiece first test⟩ ::
        (armPieces (level + 1) body ++ branchPieces level false rest) := by
  cases body <;> rfl

def indented (level : Int) (text : String) : String :=
  if (lines text).head? = some "" then text else indentation level ++ text

theorem indented_of_toList {text : String} {c : Char} {rest : List Char}
    (ht : text.toList = c :: rest) (hc : c ≠ '\n') (level : Int) :
    indented level text = indentation level ++ text := by
  refine if_neg fun hh => ?_
  rw [lines, ht, linesOfChars, if_neg hc] at hh
  split at hh <;> simp at hh

theorem indented_zero (text : String) : indented 0 text = text := by
  unfold indented
  split
  · rfl
  · exact String.empty_append

def Placed.text (p : Placed) : String := indented p.level p.piece.text

theorem Placed.lines_ne_nil (p : Placed) : p.lines ≠ [] := by
  cases hl : Text.lines p.piece.text with
  | nil => exact (Text.lines_ne_nil _ hl).elim
  | cons first rest => simp [lines, hl]

theorem Placed.joinLines_lines (p : Placed) : joinLines p.lines = p.text := by
  have hj := Text.joinLines_lines p.piece.text
  unfold lines text indented
  cases hl : Text.lines p.piece.text with
  | nil => exact (Text.lines_ne_nil _ hl).elim
  | cons first rest =>
    rw [hl] at hj
    by_cases he : first = ""
    · simp only [indentLine, he, List.head?_cons, if_true]
      rwa [he] at hj
    · simp only [indentLine, he, List.head?_cons, Option.some.injEq, if_false]
      rw [joinLines_cons_append, hj]

theorem layout_eq (ps : List Placed) : layout ps = joinLines (ps.map Placed.text) := by
  simp only [layout, joinLines_flatMap Placed.lines_ne_nil, Placed.joinLines_lines]

/-- The statements of nodes whose outermost stand at a level, each as it is written. -/
def statements (level : Int) (ns : List Node) : List String :=
  (bodyPieces level ns).map Placed.text

theorem statements_append (level : Int) (ns ms : List Node) :
    statements level (ns ++ ms) = statements level ns ++ statements level ms := by
  rw [statements, bodyPieces_append, List.map_append]
  rfl

theorem Script.render_eq (s : Script) (level : Int) :
    s.render level = joinLines (statements level s) := layout_eq _

end Shell

end BuildScript

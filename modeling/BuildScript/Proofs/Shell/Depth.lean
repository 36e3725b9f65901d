import BuildScript.Proofs.Shell.Layout

/-! # Depth

The pieces of a script stand at fixed depths below the level at which it is rendered. So at a deeper
level its text has the same lines, and only those move that begin a piece and are not empty: every
other line belongs to the text of the user.
-/

namespace BuildScript

namespace Text

theorem notMem_of_mem_linesOfChars {cs line : List Char} (h : line ∈ linesOfChars cs) :
    '\n' ∉ line := by
  induction cs generalizing line with
  | nil => simp_all [linesOfChars]
  | cons c rest ih =>
    unfold linesOfChars at h
    split at h
    · rcases List.mem_cons.mp h with rfl | h
      · exact List.not_mem_nil
      · exact ih h
    · next hc =>
      split at h
      · next hl => exact absurd hl (linesOfChars_ne_nil rest)
      · next first more hl =>
        rw [hl] at ih
        rcases List.mem_cons.mp h with rfl | h
        · simpa [Ne.symm hc] using ih List.mem_cons_self
        · exact ih (List.mem_cons_of_mem _ h)

theorem notMem_of_mem_lines {s line : String} (h : line ∈ lines s) : '\n' ∉ line.toList := by
  obtain ⟨cs, hc, rfl⟩ := List.mem_map.mp h
  simpa using notMem_of_mem_linesOfChars hc

end Text

namespace Shell

open Text

/-! ## Levels of pieces -/

def Piece.below (level : Int) (p : Nat × Piece) : Placed := ⟨level + p.1, p.2⟩

theorem Piece.map_below_succ (level : Int) (ps : List (Nat × Piece)) :
    ps.map (below (level + 1)) = (ps.map fun p => (p.1 + 1, p.2)).map (below level) := by
  rw [List.map_map]
  refine List.map_congr_left fun p _ => ?_
  have hl : level + 1 + (p.1 : Int) = level + (p.1 + 1 : Nat) := by omega
  simp only [Function.comp_apply, below, hl]

mutual

theorem Node.exists_depths (n : Node) :
    ∃ ps : List (Nat × Piece), ∀ level, n.pieces level = ps.map (Piece.below level) := by
  cases n with
  | command c => exact ⟨c.pieces.map (0, ·), fun level => by simp [Node.pieces, Piece.below]⟩
  | assign e => exact ⟨e.pieces.map (0, ·), fun level => by simp [Node.pieces, Piece.below]⟩
  | raw text => exact ⟨[(0, .raw text)], fun level => by simp [Node.pieces, Piece.below]⟩
  | fold label body =>
    obtain ⟨ps, hp⟩ := exists_depths body
    refine ⟨(0, .foldStart label) :: (ps.map fun p => (p.1 + 1, p.2)) ++ [(0, .foldEnd label)],
      fun level => ?_⟩
    rw [Node.pieces, hp, Piece.map_below_succ]
    simp [Piece.below]
  | conditional branches =>
    obtain ⟨ps, hp⟩ := exists_depths_branches true branches
    refine ⟨ps ++ [(0, .endIf)], fun level => ?_⟩
    rw [Node.pieces, hp]
    simp [Piece.below]

/-- The pieces of nodes stand at fixed depths below the level of the nodes. -/
theorem exists_depths (ns : List Node) :
    ∃ ps : List (Nat × Piece), ∀ level, bodyPieces level ns = ps.map (Piece.below level) := by
  cases ns with
  | nil => exact ⟨[], fun _ => rfl⟩
  | cons n rest =>
    obtain ⟨ps, hp⟩ := n.exists_depths
    obtain ⟨qs, hq⟩ := exists_depths rest
    exact ⟨ps ++ qs, fun level => by rw [bodyPieces, hp, hq, List.map_append]⟩

theorem exists_depths_branches (first : Bool) (branches : List Branch) :
    ∃ ps : List (Nat × Piece),
      ∀ level, branchPieces level first branches = ps.map (Piece.below level) := by
  match branches with
  | [] => exact ⟨[], fun _ => rfl⟩
  | ⟨test, body⟩ :: rest =>
    obtain ⟨ps, hp⟩ : ∃ ps : List (Nat × Piece),
        ∀ level, armPieces level body = ps.map (Piece.below level) := by
      by_cases hb : body = []
      · exact ⟨[(0, .placeholder)], fun level => by simp [armPieces, hb, Piece.below]⟩
      · obtain ⟨ps, hp⟩ := exists_depths body
        exact ⟨ps, fun level => by rw [armPieces, if_neg hb, hp]⟩
    obtain ⟨qs, hq⟩ := exists_depths_branches false rest
    refine ⟨(0, headPiece first test) :: (ps.map fun p => (p.1 + 1, p.2)) ++ qs, fun level => ?_⟩
    rw [branchPieces_cons, hp, hq, Piece.map_below_succ]
    simp [Piece.below]

end

/-! ## Lines of pieces -/

/-- A line of a text, and whether it takes an indentation. -/
structure Line where
  text : String
  begins : Bool

def Line.deepen (k : Nat) (l : Line) : Line :=
  { l with text := if l.begins then indentation k ++ l.text else l.text }

/-- The lines of a piece. The first one takes its indentation, unless it is empty. -/
def Placed.split (p : Placed) : List Line :=
  match Text.lines p.piece.text with
  | [] => []
  | first :: rest => ⟨indentLine p.level first, first != ""⟩ :: rest.map (⟨·, false⟩)

def outdent (level : Int) : List String → List String
  | [] => []
  | first :: rest => String.ofList (first.toList.drop (2 * level.toNat)) :: rest

theorem indentation_add {level : Int} (h : 0 ≤ level) (k : Nat) :
    indentation (level + k) = indentation k ++ indentation level := by
  have hk : 2 * (level + k).toNat = 2 * k + 2 * level.toNat := by omega
  simp [indentation, hk, ← String.ofList_append]

theorem toList_indentation (level : Int) :
    (indentation level).toList = List.replicate (2 * level.toNat) ' ' := by simp [indentation]

namespace Placed

theorem map_text_split (p : Placed) : p.split.map Line.text = p.lines := by
  unfold split lines
  cases Text.lines p.piece.text <;> simp [Function.comp_def]

/-- Some levels deeper a piece has the same lines, but for a first one that is not empty. -/
theorem split_deepen {level : Int} (h : 0 ≤ level) (k : Nat) (p : Piece) :
    split ⟨level + k, p⟩ = (split ⟨level, p⟩).map (Line.deepen k) := by
  unfold split
  cases Text.lines p.text with
  | nil => rfl
  | cons first rest =>
    by_cases hf : first = ""
    · simp [hf, indentLine, Line.deepen]
    · simp [hf, indentLine, Line.deepen, indentation_add h, String.append_assoc]

theorem outdent_lines (p : Placed) : outdent p.level p.lines = Text.lines p.piece.text := by
  unfold lines
  cases Text.lines p.piece.text with
  | nil => rfl
  | cons first rest =>
    by_cases hf : first = ""
    · simp [outdent, indentLine, hf]
    · simp [outdent, indentLine, hf, toList_indentation]

theorem tail_lines (p : Placed) : p.lines.tail = (Text.lines p.piece.text).tail := by
  unfold lines
  cases Text.lines p.piece.text <;> rfl

theorem notMem_of_mem_lines {p : Placed} {line : String} (h : line ∈ p.lines) :
    '\n' ∉ line.toList := by
  unfold lines at h
  split at h
  · cases h
  · next first rest hl =>
    have hf : '\n' ∉ first.toList := Text.notMem_of_mem_lines (hl ▸ List.mem_cons_self)
    rcases List.mem_cons.mp h with rfl | hr
    · by_cases he : first = "" <;> simp_all [indentLine, toList_indentation]
    · exact Text.notMem_of_mem_lines (hl ▸ List.mem_cons_of_mem first hr)

end Placed

/-! ## Lines of scripts -/

/-- The lines of a script, piece by piece. A script without pieces has one line, which is empty. -/
def Script.split (s : Script) (level : Int) : List Line :=
  if s = [] then [⟨"", false⟩] else (bodyPieces level s).flatMap Placed.split

theorem Script.lines_render (s : Script) (level : Int) :
    lines (s.render level) = (s.split level).map Line.text := by
  by_cases hs : s = []
  · subst hs
    rfl
  rw [split, if_neg hs, List.map_flatMap]
  simp only [Placed.map_text_split]
  refine lines_joinLines ?_ fun line hl => ?_
  · obtain ⟨p, rest, hp⟩ := List.exists_cons_of_ne_nil (bodyPieces_ne_nil hs level)
    simp [hp, p.lines_ne_nil]
  · obtain ⟨p, -, hl⟩ := List.mem_flatMap.mp hl
    exact Placed.notMem_of_mem_lines hl

theorem Script.split_deepen (s : Script) (d k : Nat) :
    s.split ↑(d + k) = (s.split d).map (Line.deepen k) := by
  obtain ⟨ps, hp⟩ := exists_depths s
  by_cases hs : s = []
  · simp [split, hs, Line.deepen]
  simp only [split, if_neg hs, hp, List.flatMap_map, List.map_flatMap, Piece.below]
  refine congrArg List.flatten (List.map_congr_left fun p _ => ?_)
  have hl : ((d + k : Nat) : Int) + p.1 = (d + p.1 : Int) + k := by omega
  rw [hl]
  exact Placed.split_deepen (by omega) k p.2

/-- What becomes of the text of a script at a level when it is rendered some levels deeper. -/
structure Deepens (s : Script) (d k : Nat) : Prop where
  /-- The pieces are the same. -/
  pieces : (bodyPieces ↑(d + k) s).map Placed.piece = (bodyPieces d s).map Placed.piece
  /-- The lines of the text are those of its pieces. -/
  cut : lines (s.render d) = (s.split d).map Line.text
  /-- There are as many lines as before. -/
  length : (lines (s.render ↑(d + k))).length = (lines (s.render d)).length
  /-- Those that begin a piece and are not empty have gained blanks, all others are the same. -/
  moved : lines (s.render ↑(d + k)) =
    (s.split d).map fun l => if l.begins then indentation k ++ l.text else l.text
  /-- Without the indentation of its first line a piece has its own text, and its further lines are
  those of its text. -/
  restored : ∀ p ∈ bodyPieces d s,
    joinLines (outdent p.level (p.split.map Line.text)) = p.piece.text ∧
      (p.split.map Line.text).tail = (lines p.piece.text).tail

/-- When a script is rendered some levels deeper, only the lines move that begin a piece. -/
theorem nesting_moves_first_lines (s : Script) (d k : Nat) : Deepens s d k where
  pieces := by
    obtain ⟨ps, hp⟩ := exists_depths s
    simp [hp, Piece.below]
  cut := s.lines_render d
  length := by rw [s.lines_render, s.lines_render, s.split_deepen, List.map_map, List.length_map,
    List.length_map]
  moved := by
    rw [s.lines_render, s.split_deepen, List.map_map]
    rfl
  restored p _ := by
    rw [p.map_text_split, p.outdent_lines]
    exact ⟨joinLines_lines p.piece.text, p.tail_lines⟩

/-- The further lines of a literal text stay where they are inside a block. -/
example : Script.render [.fold "notes" [.raw "cat <<END\n  two\nEND"]] 1 =
    "  cibuild_fold start notes\n    cat <<END\n  two\nEND\n  cibuild_fold end notes" := by
  decide +kernel

end Shell

end BuildScript

import BuildScript.Proofs.Shell.Layout

/-! # Scripts that show nothing

What a script executes does not depend on what it shows. Without its folds, previews and timings a
script has the same heads of arms, commands, assignments and literal lines in the same order, and a
placeholder only where an arm has nothing to execute.
-/

namespace BuildScript.Shell

mutual

/-- What is left of a node without folds, previews and timings. -/
def Node.quiet : Node → List Node
  | .command c => [.command { c with echo := false, timing := false }]
  | .assign e => [.assign { e with echo := false }]
  | .raw text => [.raw text]
  | .fold _ body => quietBody body
  | .conditional branches => [.conditional (quietBranches branches)]

def quietBody : List Node → List Node
  | [] => []
  | n :: rest => n.quiet ++ quietBody rest

def quietBranches : List Branch → List Branch
  | [] => []
  | ⟨test, body⟩ :: rest => ⟨test, quietBody body⟩ :: quietBranches rest

end

def Script.quiet (s : Script) : Script := quietBody s

def Piece.isDisplay : Piece → Bool
  | .foldStart _ | .foldEnd _ | .preview _ _ | .timeStart | .timeFinish => true
  | _ => false

def filled (ps : List Placed) : List Piece :=
  (ps.map Placed.piece).filter fun p => p != .placeholder

/-- The pieces that make a difference to what is executed. -/
def executed (ps : List Placed) : List Piece := (filled ps).filter fun p => !p.isDisplay

@[simp] theorem filled_append (ps qs : List Placed) : filled (ps ++ qs) = filled ps ++ filled qs := by
  simp [filled]

@[simp] theorem executed_append (ps qs : List Placed) :
    executed (ps ++ qs) = executed ps ++ executed qs := by simp [executed]

@[simp] theorem filled_armPieces (level : Int) (body : List Node) :
    filled (armPieces level body) = filled (bodyPieces level body) := by
  cases body <;> rfl

@[simp] theorem executed_armPieces (level : Int) (body : List Node) :
    executed (armPieces level body) = executed (bodyPieces level body) := by simp [executed]

theorem Command.executed_pieces (level level' : Int) (c : Command) :
    executed (c.pieces.map (Placed.mk level)) =
      filled (({ c with echo := false, timing := false } : Command).pieces.map (Placed.mk level')) := by
  obtain ⟨text, echo, asserted, timing, retry, secure, color⟩ := c
  cases timing <;> cases echo <;> cases retry <;> cases asserted <;> rfl

theorem Export.executed_pieces (level level' : Int) (e : Export) :
    executed (e.pieces.map (Placed.mk level)) =
      filled (({ e with echo := false } : Export).pieces.map (Placed.mk level')) := by
  obtain ⟨key, value, echo, secure⟩ := e
  cases echo <;> rfl

theorem executed_head (level level' : Int) (first : Bool) (test : Option String) :
    executed [⟨level, headPiece first test⟩] = filled [⟨level', headPiece first test⟩] := by
  cases test <;> cases first <;> rfl

mutual

theorem Node.executed_pieces (level level' : Int) (n : Node) :
    executed (n.pieces level) = filled (bodyPieces level' n.quiet) := by
  cases n with
  | command c =>
    rw [Node.quiet, bodyPieces_singleton]
    exact c.executed_pieces level level'
  | assign e =>
    rw [Node.quiet, bodyPieces_singleton]
    exact e.executed_pieces level level'
  | raw text => rfl
  | fold label body =>
    have start : executed [⟨level, .foldStart label⟩] = [] := rfl
    have stop : executed [⟨level, .foldEnd label⟩] = [] := rfl
    rw [Node.pieces, Node.quiet, ← List.singleton_append, executed_append, executed_append, start,
      stop, List.append_nil]
    -- the body moves out of the fold, which is why the two levels are independent
    exact executed_bodyPieces (level + 1) level' body
  | conditional branches =>
    rw [Node.pieces, Node.quiet, bodyPieces_singleton, Node.pieces, executed_append, filled_append,
      executed_branchPieces level level' true branches]
    rfl

/-- A script executes what is left of it without folds, previews and timings. -/
theorem executed_bodyPieces (level level' : Int) (ns : List Node) :
    executed (bodyPieces level ns) = filled (bodyPieces level' (quietBody ns)) := by
  cases ns with
  | nil => rfl
  | cons n rest =>
    rw [bodyPieces, quietBody, bodyPieces_append, executed_append, filled_append,
      n.executed_pieces level level', executed_bodyPieces level level' rest]

theorem executed_branchPieces (level level' : Int) (first : Bool) (branches : List Branch) :
    executed (branchPieces level first branches) =
      filled (branchPieces level' first (quietBranches branches)) := by
  match branches with
  | [] => rfl
  | ⟨test, body⟩ :: rest =>
    rw [quietBranches, branchPieces_cons, branchPieces_cons, ← List.singleton_append,
      ← List.singleton_append (l := _ ++ branchPieces level' _ _)]
    simp only [executed_append, filled_append, executed_armPieces, filled_armPieces,
      executed_head level level' first test, executed_bodyPieces (level + 1) (level' + 1) body,
      executed_branchPieces level level' false rest]

end

/-- Folds, previews and timings change nothing of what a script executes: without their pieces and
without placeholders it has the pieces of the quiet script, at whatever levels both are rendered. -/
theorem display_executes_nothing (s : Script) (level level' : Int) :
    (((bodyPieces level s).map Placed.piece).filter fun p => !p.isDisplay && p != .placeholder) =
      ((bodyPieces level' s.quiet).map Placed.piece).filter fun p => p != .placeholder := by
  rw [← List.filter_filter]
  exact executed_bodyPieces level level' s

end BuildScript.Shell

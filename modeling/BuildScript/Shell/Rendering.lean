import BuildScript.Shell.Piece

/-! # Rendering

A script tree becomes pieces in one pass in the order of its nodes, and the pieces become text.
Rendering is total: every tree of nodes has exactly one text.
-/

namespace BuildScript.Shell

/-- The text that a preview shows in place of the command. -/
def Command.shown (c : Command) : String := if c.secure then secret else c.text

def Export.shown (e : Export) : String := if e.secure then secret else e.value

def Command.pieces (c : Command) : List Piece :=
  (if c.timing then [.timeStart] else []) ++
  (if c.echo then [.preview ("$ " ++ c.shown) c.color] else []) ++
  [if c.retry then .retry c.text else .run c.text] ++
  (if c.timing then [.timeFinish] else []) ++
  (if c.asserted then [.assertResult] else [])

def Export.pieces (e : Export) : List Piece :=
  (if e.echo then [.preview ("$ export " ++ e.key ++ "=" ++ e.shown) none] else []) ++
  [.assign e.key e.value]

/-- The line that opens an arm; `first` tells whether the arm begins its conditional. -/
def headPiece (first : Bool) : Option String → Piece
  | none => .elseHead
  | some test => if first then .ifHead test else .elifHead test

mutual

def Node.pieces (level : Int) : Node → List Placed
  | .command c => c.pieces.map (Placed.mk level)
  | .assign e => e.pieces.map (Placed.mk level)
  | .raw text => [⟨level, .raw text⟩]
  | .fold label body =>
    ⟨level, .foldStart label⟩ :: (bodyPieces (level + 1) body ++ [⟨level, .foldEnd label⟩])
  | .conditional branches => branchPieces level true branches ++ [⟨level, .endIf⟩]

def bodyPieces (level : Int) : List Node → List Placed
  | [] => []
  | node :: rest => node.pieces level ++ bodyPieces level rest

def branchPieces (level : Int) (first : Bool) : List Branch → List Placed
  | [] => []
  | ⟨test, []⟩ :: rest =>
    ⟨level, headPiece first test⟩ :: ⟨level + 1, .placeholder⟩ :: branchPieces level false rest
  | ⟨test, node :: body⟩ :: rest =>
    ⟨level, headPiece first test⟩ ::
      (node.pieces (level + 1) ++ bodyPieces (level + 1) body ++ branchPieces level false rest)

end

/-- The text of a script whose outermost nodes stand at a level. -/
def Script.render (script : Script) (level : Int) : String := layout (bodyPieces level script)

end BuildScript.Shell

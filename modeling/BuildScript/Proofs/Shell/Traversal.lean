import BuildScript.Proofs.Shell.Disclosure
import BuildScript.Proofs.Shell.Layout

/-! # Listing, redacting and rendering

The parts of an outline are listed, redacted and rendered in one order. Redacting an outline redacts
the parts that are listed, and the pieces of a script are those of the listed commands, assignments
and literal lines, one after the other, between lines of blocks.
-/

namespace BuildScript.Shell

namespace Outline

mutual

theorem descendants_redacted (o : Outline) : o.redacted.descendants = o.descendants.map redacted := by
  cases o with
  | command | assign | raw => rfl
  | conditional branches => exact beneathArms_redactedAll branches
  | branch test children => exact beneath_redactedAll children
  | fold label children => exact beneath_redactedAll children
  | script children => exact beneath_redactedAll children

theorem beneath_redactedAll (os : List Outline) :
    beneath (redactedAll os) = (beneath os).map redacted := by
  cases os with
  | nil => rfl
  | cons o rest =>
    simp [redactedAll, beneath, descendants_redacted o, beneath_redactedAll rest]

theorem beneathArms_redactedAll (os : List Outline) :
    beneathArms (redactedAll os) = (beneathArms os).map redacted := by
  cases os with
  | nil => rfl
  | cons o rest =>
    simp [redactedAll, beneathArms, descendants_redacted o, beneathArms_redactedAll rest]

end

def isLeaf : Outline → Bool
  | .command _ | .assign _ | .raw _ => true
  | .conditional _ | .branch _ _ | .fold _ _ | .script _ => false

def ownPieces : Outline → List Piece
  | .command c => c.pieces
  | .assign e => e.pieces
  | .raw text => [.raw text]
  | .conditional _ | .branch _ _ | .fold _ _ | .script _ => []

/-- The leaves below an outline, in the order of the list. -/
def leaves (o : Outline) : List Outline := o.descendants.filter isLeaf

end Outline

open Outline

/-- A line of a block: it opens, continues or closes the block, or stands in an empty arm. -/
def Piece.isFrame : Piece → Bool
  | .foldStart _ | .foldEnd _ | .ifHead _ | .elifHead _ | .elseHead | .placeholder | .endIf => true
  | _ => false

/-- Pieces that are made of those of the leaves, each leaf once and in order and its pieces at one
level and side by side, with nothing but lines of blocks between them. -/
inductive Spread : List Placed → List Outline → Prop
  | nil : Spread [] []
  | frame {p : Placed} {ps : List Placed} {os : List Outline} (hp : p.piece.isFrame = true)
    (h : Spread ps os) : Spread (p :: ps) os
  | leaf {o : Outline} {ps : List Placed} {os : List Outline} (level : Int) (ho : o.isLeaf = true)
    (h : Spread ps os) : Spread (o.ownPieces.map (Placed.mk level) ++ ps) (o :: os)

namespace Spread

variable {ps qs : List Placed} {os rs : List Outline}

theorem append (h : Spread ps os) (h' : Spread qs rs) : Spread (ps ++ qs) (os ++ rs) := by
  induction h with
  | nil => exact h'
  | frame hp _ ih => exact .frame hp ih
  | leaf level ho _ ih =>
    rw [List.append_assoc]
    exact .leaf level ho ih

theorem line (level : Int) {p : Piece} (hp : p.isFrame = true) : Spread [⟨level, p⟩] [] :=
  .frame hp .nil

theorem single {o : Outline} (level : Int) (ho : o.isLeaf = true) :
    Spread (o.ownPieces.map (Placed.mk level)) [o] := by
  have h := Spread.leaf level ho .nil
  rwa [List.append_nil] at h

end Spread

theorem isFrame_headPiece (first : Bool) (test : Option String) :
    (headPiece first test).isFrame = true := by
  cases test <;> cases first <;> rfl

mutual

theorem Node.spread_pieces (level : Int) (n : Node) :
    Spread (n.pieces level) ((ofNode n :: (ofNode n).descendants).filter isLeaf) := by
  cases n with
  | command c => exact .single (o := .command c) level rfl
  | assign e => exact .single (o := .assign e) level rfl
  | raw text => exact .single (o := .raw text) level rfl
  | fold label body =>
    have h := (spread_bodyPieces (level + 1) body).append (.line level (p := .foldEnd label) rfl)
    rw [List.append_nil] at h
    exact .frame rfl h
  | conditional branches =>
    have h := (spread_branchPieces level true branches).append (.line level (p := .endIf) rfl)
    rwa [List.append_nil] at h

/-- The pieces of nodes are those of the leaves that are listed below them. -/
theorem spread_bodyPieces (level : Int) (ns : List Node) :
    Spread (bodyPieces level ns) ((beneath (ofNodes ns)).filter isLeaf) := by
  cases ns with
  | nil => exact .nil
  | cons n rest =>
    rw [ofNodes, beneath, ← List.cons_append, List.filter_append]
    exact (n.spread_pieces level).append (spread_bodyPieces level rest)

theorem spread_branchPieces (level : Int) (first : Bool) (branches : List Branch) :
    Spread (branchPieces level first branches)
      ((beneathArms (ofBranches branches)).filter isLeaf) := by
  match branches with
  | [] => exact .nil
  | ⟨test, body⟩ :: rest =>
    have arm : Spread (armPieces (level + 1) body) ((beneath (ofNodes body)).filter isLeaf) := by
      by_cases hb : body = []
      · subst hb
        exact .line (level + 1) rfl
      · rw [armPieces, if_neg hb]
        exact spread_bodyPieces (level + 1) body
    rw [branchPieces_cons, ofBranches, beneathArms, List.filter_append]
    exact .frame (isFrame_headPiece first test) (arm.append (spread_branchPieces level false rest))

end

theorem Outline.spread_of_toScript {o : Outline} {s : Script} (h : o.toScript = .ok s)
    (level : Int) : Spread (bodyPieces level s) o.leaves := by
  have hs := spread_bodyPieces level s
  cases o with
  | command | assign | raw | conditional => cases h
  | branch test children | fold label children | script children =>
    rwa [ofNodes_of_nodes h] at hs

/-- Redacting an outline redacts each part that is listed, and once is enough. The pieces of a
script are those of its listed leaves in their order. -/
theorem traversals_agree (o : Outline) :
    o.redacted.descendants = o.descendants.map redacted ∧
    o.redacted.redacted = o.redacted ∧
    ∀ s, o.toScript = .ok s → ∀ level, Spread (bodyPieces level s) o.leaves :=
  ⟨descendants_redacted o, redacted_redacted o, fun _ hs => spread_of_toScript hs⟩

/-- A retried command with five pieces and a variable with two, between the lines of a fold and of
a conditional with an empty arm. -/
theorem traversals_agree_deployment :
    ∃ s, (deployment "it's").toScript = .ok s ∧
      (bodyPieces 0 s).length = 13 ∧ (deployment "it's").leaves.length = 2 ∧
      Spread (bodyPieces 0 s) (deployment "it's").leaves :=
  ⟨_, rfl, rfl, rfl, (traversals_agree (deployment "it's")).2.2 _ rfl 0⟩

end BuildScript.Shell

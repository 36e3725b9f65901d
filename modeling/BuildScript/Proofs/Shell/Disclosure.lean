import BuildScript.Proofs.Shell.Veil

/-! # What the text of an outline discloses

Two outlines with one redaction are misplaced in the same way, or they are scripts whose pieces
agree one by one at every level. Only the piece that executes a secure command or assigns a secure
variable may hold another text there, and however many lines that text has, no other piece moves.
-/

namespace BuildScript.Shell

namespace Outline

section Results

variable {α β γ : Type}

theorem ok_of_map {f : α → β} {x : Except Misplaced α} {b : β} (h : x.map f = .ok b) :
    ∃ a, x = .ok a ∧ f a = b := by
  cases x with
  | error m => cases h
  | ok a => exact ⟨a, rfl, Except.ok.inj h⟩

theorem ok_of_bind {x : Except Misplaced α} {k : α → Except Misplaced β} {b : β}
    (h : x >>= k = .ok b) : ∃ a, x = .ok a ∧ k a = .ok b := by
  cases x with
  | error m => cases h
  | ok a => exact ⟨a, rfl, h⟩

def misplaced? : Except Misplaced α → Option Misplaced
  | .ok _ => none
  | .error m => some m

theorem misplaced?_map (f : α → β) (x : Except Misplaced α) :
    misplaced? (x.map f) = misplaced? x := by
  cases x <;> rfl

theorem misplaced?_bind (f : α → β → γ) (x : Except Misplaced α) (y : Except Misplaced β) :
    misplaced? (do let a ← x; let b ← y; pure (f a b)) = (misplaced? x).or (misplaced? y) := by
  cases x <;> cases y <;> rfl

end Results

mutual

theorem ofNode_of_node {o : Outline} {n : Node} (h : node o = .ok n) : ofNode n = o := by
  cases o with
  | command | assign | raw =>
    cases h
    rfl
  | conditional branches =>
    obtain ⟨bs, hb, rfl⟩ := ok_of_map h
    rw [ofNode, ofBranches_of_arms hb]
  | fold label children =>
    obtain ⟨ns, hn, rfl⟩ := ok_of_map h
    rw [ofNode, ofNodes_of_nodes hn]
  | branch | script => cases h

theorem ofNodes_of_nodes {os : List Outline} {ns : List Node} (h : nodes os = .ok ns) :
    ofNodes ns = os := by
  cases os with
  | nil =>
    cases h
    rfl
  | cons o rest =>
    obtain ⟨n, hn, h⟩ := ok_of_bind h
    obtain ⟨ms, hr, h⟩ := ok_of_bind h
    cases h
    rw [ofNodes, ofNode_of_node hn, ofNodes_of_nodes hr]

theorem ofBranches_of_arms {os : List Outline} {bs : List Branch} (h : arms os = .ok bs) :
    ofBranches bs = os := by
  match os with
  | [] =>
    cases h
    rfl
  | .branch test children :: rest =>
    obtain ⟨body, hb, h⟩ := ok_of_bind h
    obtain ⟨more, hr, h⟩ := ok_of_bind h
    cases h
    rw [ofBranches, ofNodes_of_nodes hb, ofBranches_of_arms hr]
  | .command _ :: _ | .assign _ :: _ | .raw _ :: _ | .conditional _ :: _ | .fold _ _ :: _
  | .script _ :: _ => cases h

end

mutual

theorem misplaced?_node (o : Outline) : misplaced? (node o.redacted) = misplaced? (node o) := by
  cases o with
  | command | assign | raw | branch | script => rfl
  | conditional branches =>
    rw [redacted, node, node, misplaced?_map, misplaced?_map, misplaced?_arms branches]
  | fold label children =>
    rw [redacted, node, node, misplaced?_map, misplaced?_map, misplaced?_nodes children]

theorem misplaced?_nodes (os : List Outline) :
    misplaced? (nodes (redactedAll os)) = misplaced? (nodes os) := by
  cases os with
  | nil => rfl
  | cons o rest =>
    rw [redactedAll, nodes, nodes, misplaced?_bind, misplaced?_bind, misplaced?_node o,
      misplaced?_nodes rest]

theorem misplaced?_arms (os : List Outline) :
    misplaced? (arms (redactedAll os)) = misplaced? (arms os) := by
  match os with
  | [] => rfl
  | .branch test children :: rest =>
    rw [redactedAll, redacted, arms, arms, misplaced?_bind, misplaced?_bind,
      misplaced?_nodes children, misplaced?_arms rest]
  | .command _ :: _ | .assign _ :: _ | .raw _ :: _ | .conditional _ :: _ | .fold _ _ :: _
  | .script _ :: _ => rfl

end

/-- The nodes of outlines with one redaction: one fault, or scripts with one veil. -/
theorem nodes_cases {os ps : List Outline} (h : redactedAll os = redactedAll ps) :
    (∃ m, nodes os = .error m ∧ nodes ps = .error m) ∨
      ∃ s t, nodes os = .ok s ∧ nodes ps = .ok t ∧ veil s = veil t := by
  have hm : misplaced? (nodes os) = misplaced? (nodes ps) := by
    rw [← misplaced?_nodes os, h, misplaced?_nodes ps]
  cases ho : nodes os with
  | error m =>
    cases hp : nodes ps with
    | error m' =>
      rw [ho, hp] at hm
      cases hm
      exact .inl ⟨m, rfl, rfl⟩
    | ok t =>
      rw [ho, hp] at hm
      cases hm
  | ok s =>
    cases hp : nodes ps with
    | error m =>
      rw [ho, hp] at hm
      cases hm
    | ok t =>
      refine .inr ⟨s, t, rfl, rfl, ?_⟩
      rw [veil, veil, ofNodes_of_nodes ho, ofNodes_of_nodes hp, h]

theorem toScript_cases {o p : Outline} (h : o.redacted = p.redacted) :
    (∃ m, o.toScript = .error m ∧ p.toScript = .error m) ∨
      ∃ s t, o.toScript = .ok s ∧ p.toScript = .ok t ∧ veil s = veil t := by
  cases o <;> cases p <;> simp only [redacted, reduceCtorEq, Outline.branch.injEq,
    Outline.fold.injEq, Outline.script.injEq] at h
  case script.script => exact nodes_cases h
  case fold.fold | branch.branch => exact nodes_cases h.2
  all_goals exact .inl ⟨.noNodes, rfl, rfl⟩

end Outline

/-- The pieces of two scripts at a level differ at most in the texts of those that a secret goes
into. -/
structure SameButSecrets (level : Int) (s t : Script) : Prop where
  length : (bodyPieces level s).length = (bodyPieces level t).length
  /-- Marking the pieces that a secret goes into changes no piece. -/
  first : (bodyMarked level s).map Marked.placed = bodyPieces level s
  second : (bodyMarked level t).map Marked.placed = bodyPieces level t
  agree : Agree (bodyMarked level s) (bodyMarked level t)
  /-- Previews, fold markers and heads are among the pieces that are the same. -/
  others : (bodyPieces level s).filter (fun p => p.piece.isPublic) =
    (bodyPieces level t).filter fun p => p.piece.isPublic

/-- Outlines that are the same once their secrets are hidden cannot be rendered for the same reason,
or have the same pieces but for what their secure commands run and their secure variables hold. -/
theorem secrets_stay_in_their_pieces {o p : Outline} (h : o.redacted = p.redacted) :
    (∃ m, o.toScript = .error m ∧ p.toScript = .error m) ∨
      ∃ s t, o.toScript = .ok s ∧ p.toScript = .ok t ∧ ∀ level, SameButSecrets level s t := by
  obtain hm | ⟨s, t, hs, ht, hv⟩ := Outline.toScript_cases h
  · exact .inl hm
  refine .inr ⟨s, t, hs, ht, fun level => ?_⟩
  have agree := agree_bodyMarked level s t hv
  exact {
    length := by
      rw [← placed_bodyMarked, ← placed_bodyMarked, List.length_map, List.length_map,
        agree.length_eq]
    first := placed_bodyMarked level s
    second := placed_bodyMarked level t
    agree := agree
    others := by
      rw [← placed_bodyMarked, ← placed_bodyMarked]
      exact agree.filter_eq fun _ hp => hp }

def deployment (token : String) : Outline :=
  .script [.fold "deploy" [
    .command {
      text := "deploy " ++ token
      echo := true, asserted := true, timing := true, retry := true, secure := true
      color := some .green },
    .conditional [.branch (some "true") [.assign ⟨"TOKEN", token, true, true⟩],
      .branch none []]]]

/-- One secret has one line, the other three. -/
theorem secrets_stay_in_their_pieces_multiline :
    (deployment "a\nb\nc").redacted = (deployment "it's").redacted ∧
      ∃ s t, (deployment "a\nb\nc").toScript = .ok s ∧ (deployment "it's").toScript = .ok t ∧
        s.render 0 ≠ t.render 0 ∧ ∀ level, SameButSecrets level s t := by
  have h : (deployment "a\nb\nc").redacted = (deployment "it's").redacted := rfl
  refine ⟨h, ?_⟩
  obtain ⟨m, hm, -⟩ | ⟨s, t, hs, ht, hl⟩ := secrets_stay_in_their_pieces h
  · cases hm
  · refine ⟨s, t, hs, ht, ?_, hl⟩
    cases hs
    cases ht
    decide +kernel

end BuildScript.Shell

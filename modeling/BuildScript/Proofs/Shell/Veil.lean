import Mathlib.Data.List.Forall2
import BuildScript.Shell.Outline

/-! # Secrets in scripts

Two scripts with the same veil differ only in what their secure commands run and in what their
secure variables hold. Their pieces agree one by one: only the piece that runs a secure command and
the piece that assigns a secure variable may hold another text.
-/

namespace BuildScript.Shell

open Outline

def veil (ns : List Node) : List Outline := redactedAll (ofNodes ns)

theorem veil_cons (n : Node) (ns : List Node) : veil (n :: ns) = (ofNode n).redacted :: veil ns :=
  rfl

theorem veil_append (ns ms : List Node) : veil (ns ++ ms) = veil ns ++ veil ms := by
  induction ns with
  | nil => rfl
  | cons n rest ih => rw [List.cons_append, veil_cons, veil_cons, ih, List.cons_append]

theorem length_veil (ns : List Node) : (veil ns).length = ns.length := by
  induction ns with
  | nil => rfl
  | cons n rest ih => rw [veil_cons, List.length_cons, List.length_cons, ih]

theorem length_eq_of_veil {ns ms : List Node} (h : veil ns = veil ms) : ns.length = ms.length := by
  rw [← length_veil ns, h, length_veil]

theorem veil_fold {ns ms : List Node} (label : String) (h : veil ns = veil ms) :
    veil [.fold label ns] = veil [.fold label ms] :=
  congrArg (fun os => [Outline.fold label os]) h

/-- Commands that are equal once their secrets are hidden differ in a secure text at most. -/
theorem Command.eq_of_redacted {c d : Command} (h : c.redacted = d.redacted) :
    ∃ text, d = { c with text := text } ∧ (c.secure = false → text = c.text) := by
  obtain ⟨text, echo, asserted, timing, retry, secure, color⟩ := c
  obtain ⟨text', echo', asserted', timing', retry', secure', color'⟩ := d
  refine ⟨text', ?_⟩
  cases secure <;> cases secure' <;> simp_all [redacted]

theorem Export.eq_of_redacted {e f : Export} (h : e.redacted = f.redacted) :
    ∃ value, f = { e with value := value } ∧ (e.secure = false → value = e.value) := by
  obtain ⟨key, value, echo, secure⟩ := e
  obtain ⟨key', value', echo', secure'⟩ := f
  refine ⟨value', ?_⟩
  cases secure <;> cases secure' <;> simp_all [redacted]

/-! ## Pieces with their secrets marked -/

/-- A piece at its level, and whether it is one that a secret goes into. -/
structure Marked where
  placed : Placed
  isSecret : Bool
deriving DecidableEq

def Marked.plain (level : Int) (p : Piece) : Marked := ⟨⟨level, p⟩, false⟩

@[simp] theorem Marked.placed_plain (level : Int) (p : Piece) :
    (plain level p).placed = ⟨level, p⟩ := rfl

@[simp] theorem Marked.map_placed_plain (level : Int) (ps : List Piece) :
    (ps.map (plain level)).map placed = ps.map (Placed.mk level) := List.map_map

namespace Command

def before (c : Command) : List Piece :=
  (if c.timing then [.timeStart] else []) ++
  (if c.echo then [.preview ("$ " ++ c.shown) c.color] else [])

def executed (c : Command) : Piece := if c.retry then .retry c.text else .run c.text

def after (c : Command) : List Piece :=
  (if c.timing then [.timeFinish] else []) ++ (if c.asserted then [.assertResult] else [])

theorem pieces_eq (c : Command) : c.pieces = c.before ++ c.executed :: c.after := by
  simp [pieces, before, executed, after]

def marked (level : Int) (c : Command) : List Marked :=
  c.before.map (.plain level) ++ ⟨⟨level, c.executed⟩, c.secure⟩ :: c.after.map (.plain level)

end Command

namespace Export

def before (e : Export) : List Piece :=
  if e.echo then [.preview ("$ export " ++ e.key ++ "=" ++ e.shown) none] else []

theorem pieces_eq (e : Export) : e.pieces = e.before ++ [.assign e.key e.value] := rfl

def marked (level : Int) (e : Export) : List Marked :=
  e.before.map (.plain level) ++ [⟨⟨level, .assign e.key e.value⟩, e.secure⟩]

end Export

mutual

def Node.marked (level : Int) : Node → List Marked
  | .command c => c.marked level
  | .assign e => e.marked level
  | .raw text => [.plain level (.raw text)]
  | .fold label body =>
    .plain level (.foldStart label) ::
      (bodyMarked (level + 1) body ++ [.plain level (.foldEnd label)])
  | .conditional branches => branchMarked level true branches ++ [.plain level .endIf]

def bodyMarked (level : Int) : List Node → List Marked
  | [] => []
  | node :: rest => node.marked level ++ bodyMarked level rest

def branchMarked (level : Int) (first : Bool) : List Branch → List Marked
  | [] => []
  | ⟨test, []⟩ :: rest =>
    .plain level (headPiece first test) :: .plain (level + 1) .placeholder ::
      branchMarked level false rest
  | ⟨test, node :: body⟩ :: rest =>
    .plain level (headPiece first test) ::
      (node.marked (level + 1) ++ bodyMarked (level + 1) body ++ branchMarked level false rest)

end

mutual

theorem Node.placed_marked (level : Int) (n : Node) :
    (n.marked level).map Marked.placed = n.pieces level := by
  cases n with
  | command c =>
    rw [Node.marked, Command.marked, List.map_append, List.map_cons, Marked.map_placed_plain,
      Marked.map_placed_plain, Node.pieces, c.pieces_eq, List.map_append, List.map_cons]
  | assign e =>
    rw [Node.marked, Export.marked, List.map_append, Marked.map_placed_plain, Node.pieces,
      e.pieces_eq, List.map_append]
    rfl
  | raw text => rfl
  | fold label body => simp [Node.marked, Node.pieces, placed_bodyMarked (level + 1) body]
  | conditional branches => simp [Node.marked, Node.pieces, placed_branchMarked level true branches]

theorem placed_bodyMarked (level : Int) (ns : List Node) :
    (bodyMarked level ns).map Marked.placed = bodyPieces level ns := by
  cases ns with
  | nil => rfl
  | cons n rest =>
    rw [bodyMarked, bodyPieces, List.map_append, n.placed_marked level,
      placed_bodyMarked level rest]

theorem placed_branchMarked (level : Int) (first : Bool) (bs : List Branch) :
    (branchMarked level first bs).map Marked.placed = branchPieces level first bs := by
  match bs with
  | [] => rfl
  | ⟨test, []⟩ :: rest =>
    simp [branchMarked, branchPieces, placed_branchMarked level false rest]
  | ⟨test, n :: body⟩ :: rest =>
    simp [branchMarked, branchPieces, n.placed_marked (level + 1),
      placed_bodyMarked (level + 1) body, placed_branchMarked level false rest]

end

/-! ## Agreement of pieces -/

/-- Two pieces that are the same, or that both hold a secret and differ in nothing else. -/
inductive Marked.Agrees : Marked → Marked → Prop
  | same (level : Int) (p : Piece) : Agrees (plain level p) (plain level p)
  | run (level : Int) (s t : String) : Agrees ⟨⟨level, .run s⟩, true⟩ ⟨⟨level, .run t⟩, true⟩
  | retry (level : Int) (s t : String) :
    Agrees ⟨⟨level, .retry s⟩, true⟩ ⟨⟨level, .retry t⟩, true⟩
  | assign (level : Int) (key v w : String) :
    Agrees ⟨⟨level, .assign key v⟩, true⟩ ⟨⟨level, .assign key w⟩, true⟩

abbrev Agree : List Marked → List Marked → Prop := List.Forall₂ Marked.Agrees

theorem agree_plain (level : Int) (ps : List Piece) :
    Agree (ps.map (.plain level)) (ps.map (.plain level)) := by
  induction ps with
  | nil => exact .nil
  | cons p rest ih => exact .cons (.same level p) ih

theorem Command.agree_marked {c d : Command} (level : Int) (h : c.redacted = d.redacted) :
    Agree (c.marked level) (d.marked level) := by
  obtain ⟨text, rfl, ht⟩ := eq_of_redacted h
  have hb : ({ c with text := text } : Command).before = c.before := by
    unfold before shown
    cases hs : c.secure with
    | true => rfl
    | false => rw [ht hs]
  unfold marked
  rw [hb]
  refine List.rel_append (agree_plain level _) (.cons ?_ (agree_plain level _))
  cases hs : c.secure with
  | false =>
    rw [ht hs]
    exact .same level _
  | true =>
    unfold executed
    cases c.retry with
    | true => exact .retry level _ _
    | false => exact .run level _ _

theorem Export.agree_marked {e f : Export} (level : Int) (h : e.redacted = f.redacted) :
    Agree (e.marked level) (f.marked level) := by
  obtain ⟨value, rfl, hv⟩ := eq_of_redacted h
  have hb : ({ e with value := value } : Export).before = e.before := by
    unfold before shown
    cases hs : e.secure with
    | true => rfl
    | false => rw [hv hs]
  unfold marked
  rw [hb]
  refine List.rel_append (agree_plain level _) (.cons ?_ .nil)
  cases hs : e.secure with
  | false =>
    rw [hv hs]
    exact .same level _
  | true => exact .assign level _ _ _

mutual

theorem Node.agree_marked (level : Int) (n m : Node)
    (h : (ofNode n).redacted = (ofNode m).redacted) : Agree (n.marked level) (m.marked level) := by
  cases n <;> cases m <;> simp only [ofNode, redacted, reduceCtorEq, Outline.command.injEq,
    Outline.assign.injEq, Outline.raw.injEq, Outline.conditional.injEq, Outline.fold.injEq] at h
  case command.command c d => exact c.agree_marked level h
  case assign.assign e f => exact e.agree_marked level h
  case raw.raw s t => exact h ▸ .cons (.same level _) .nil
  case conditional.conditional bs cs =>
    exact List.rel_append (agree_branchMarked level true bs cs h) (.cons (.same level _) .nil)
  case fold.fold label ns label' ms =>
    obtain ⟨rfl, h⟩ := h
    exact .cons (.same level _)
      (List.rel_append (agree_bodyMarked (level + 1) ns ms h) (.cons (.same level _) .nil))

/-- The pieces of scripts with one veil agree one by one. -/
theorem agree_bodyMarked (level : Int) (ns ms : List Node) (h : veil ns = veil ms) :
    Agree (bodyMarked level ns) (bodyMarked level ms) := by
  match ns, ms with
  | [], [] => exact .nil
  | [], _ :: _ => cases h
  | _ :: _, [] => cases h
  | n :: ns, m :: ms =>
    obtain ⟨hn, hs⟩ := List.cons.inj h
    exact List.rel_append (n.agree_marked level m hn) (agree_bodyMarked level ns ms hs)

theorem agree_branchMarked (level : Int) (first : Bool) (bs cs : List Branch)
    (h : redactedAll (ofBranches bs) = redactedAll (ofBranches cs)) :
    Agree (branchMarked level first bs) (branchMarked level first cs) := by
  match bs, cs with
  | [], [] => exact .nil
  | [], ⟨_, _⟩ :: _ => cases h
  | ⟨_, _⟩ :: _, [] => cases h
  | ⟨test, ns⟩ :: bs, ⟨test', ms⟩ :: cs =>
    obtain ⟨hb, hs⟩ := List.cons.inj h
    simp only [redacted, Outline.branch.injEq] at hb
    obtain ⟨rfl, hb⟩ := hb
    have hr := agree_branchMarked level false bs cs hs
    match ns, ms with
    | [], [] => exact .cons (.same level _) (.cons (.same (level + 1) _) hr)
    | [], _ :: _ => cases hb
    | _ :: _, [] => cases hb
    | n :: ns, m :: ms =>
      obtain ⟨hn, hb⟩ := List.cons.inj hb
      exact .cons (.same level _) (List.rel_append (List.rel_append
        (n.agree_marked (level + 1) m hn) (agree_bodyMarked (level + 1) ns ms hb)) hr)

end

/-! ## Scripts that cannot be told apart -/

def Placed.isPreview (p : Placed) : Bool :=
  match p.piece with
  | .preview _ _ => true
  | _ => false

def previews (level : Int) (ns : List Node) : List Placed :=
  (bodyPieces level ns).filter Placed.isPreview

/-- The pieces that no secret goes into, whatever the script: all but those that execute a command
or assign a variable. -/
def Piece.isPublic : Piece → Bool
  | .run _ | .retry _ | .assign _ _ => false
  | _ => true

theorem Agree.filter_eq {ms ns : List Marked} (h : Agree ms ns) {f : Placed → Bool}
    (hf : ∀ p, f p = true → p.piece.isPublic = true) :
    (ms.map Marked.placed).filter f = (ns.map Marked.placed).filter f := by
  have drop : ∀ p : Placed, p.piece.isPublic = false → f p = false := fun p hp =>
    Bool.eq_false_iff.mpr fun ht => by simp [hf p ht] at hp
  induction h with
  | nil => rfl
  | @cons a b as bs hab _ ih =>
    cases hab with
    | same level p => rw [List.map_cons, List.map_cons, List.filter_cons, List.filter_cons, ih]
    | run level s t => simpa [drop ⟨level, .run s⟩ rfl, drop ⟨level, .run t⟩ rfl] using ih
    | retry level s t => simpa [drop ⟨level, .retry s⟩ rfl, drop ⟨level, .retry t⟩ rfl] using ih
    | assign level key v w =>
      simpa [drop ⟨level, .assign key v⟩ rfl, drop ⟨level, .assign key w⟩ rfl] using ih

theorem Placed.isPublic_of_isPreview (p : Placed) (h : p.isPreview = true) :
    p.piece.isPublic = true := by
  obtain ⟨level, piece⟩ := p
  cases piece <;> first | rfl | cases h

/-- Scripts that show the same but for what their secure commands run and what their secure
variables hold. -/
structure Indistinct (s t : Script) : Prop where
  redacted : (ofScript s).redacted = (ofScript t).redacted
  pieces : ∀ level, Agree (bodyMarked level s) (bodyMarked level t)
  previews : ∀ level, previews level s = previews level t

theorem indistinct_of_veil {s t : Script} (h : veil s = veil t) : Indistinct s t where
  redacted := congrArg Outline.script h
  pieces level := agree_bodyMarked level s t h
  previews level := by
    unfold Shell.previews
    rw [← placed_bodyMarked, ← placed_bodyMarked]
    exact (agree_bodyMarked level s t h).filter_eq Placed.isPublic_of_isPreview

end BuildScript.Shell

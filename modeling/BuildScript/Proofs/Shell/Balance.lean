import BuildScript.Proofs.Shell.Failure
import BuildScript.Proofs.Shell.Layout
import BuildScript.Proofs.Shell.Nesting

/-! # Balance

The lines that open, continue and close blocks. In a script that a builder has finished they pair
up as brackets do, each pair at one level and around pieces of deeper levels, and a line that begins
an arm stands in the innermost block that is open, after arms that have tests.
-/

namespace BuildScript.Shell

inductive Role
  | opening
  | arm
  | closing
  | line
deriving DecidableEq

def Piece.role : Piece → Role
  | .foldStart _ | .ifHead _ => .opening
  | .elifHead _ | .elseHead => .arm
  | .foldEnd _ | .endIf => .closing
  | .timeStart | .preview _ _ | .run _ | .retry _ | .timeFinish | .assertResult | .assign _ _
  | .raw _ | .placeholder => .line

/-! ## Open blocks -/

/-- A block whose end has not come yet; `last` tells whether the else of a chain has begun. -/
inductive OpenBlock
  | fold (level : Int) (label : String)
  | chain (level : Int) (last : Bool)
deriving DecidableEq

def pop (b : OpenBlock) : List OpenBlock → Option (List OpenBlock)
  | [] => none
  | top :: below => if top = b then some below else none

/-- The open blocks after a piece, innermost first, if the piece may stand there. -/
def Placed.follow (p : Placed) (bs : List OpenBlock) : Option (List OpenBlock) :=
  match p.piece with
  | .foldStart label => some (.fold p.level label :: bs)
  | .foldEnd label => pop (.fold p.level label) bs
  | .ifHead _ => some (.chain p.level false :: bs)
  | .elifHead _ => (pop (.chain p.level false) bs).map (.chain p.level false :: ·)
  | .elseHead => (pop (.chain p.level false) bs).map (.chain p.level true :: ·)
  | .endIf => (pop (.chain p.level false) bs).or (pop (.chain p.level true) bs)
  | _ => some bs

def follow (bs : List OpenBlock) (ps : List Placed) : Option (List OpenBlock) :=
  ps.foldlM (fun bs p => p.follow bs) bs

theorem follow_cons (bs : List OpenBlock) (p : Placed) (ps : List Placed) :
    follow bs (p :: ps) = (p.follow bs).bind fun bs => follow bs ps := List.foldlM_cons

theorem follow_append (bs : List OpenBlock) (ps qs : List Placed) :
    follow bs (ps ++ qs) = (follow bs ps).bind fun bs => follow bs qs := List.foldlM_append

theorem Placed.follow_of_line {p : Placed} (h : p.piece.role = .line) (bs : List OpenBlock) :
    p.follow bs = some bs := by
  obtain ⟨level, piece⟩ := p
  cases piece <;> first | rfl | cases h

theorem follow_of_lines {ps : List Placed} (h : ∀ p ∈ ps, p.piece.role = .line)
    (bs : List OpenBlock) : follow bs ps = some bs := by
  induction ps with
  | nil => rfl
  | cons p rest ih =>
    obtain ⟨hp, hr⟩ := List.forall_mem_cons.mp h
    rw [follow_cons, p.follow_of_line hp, Option.bind_some, ih hr]

theorem pop_eq_some_iff {b : OpenBlock} {bs bs' : List OpenBlock} :
    pop b bs = some bs' ↔ bs = b :: bs' := by
  cases bs with
  | nil => simp [pop]
  | cons top below => simp [pop]

/-- A piece sees no more than the innermost block. -/
theorem Placed.follow_base {p : Placed} {bs bs' : List OpenBlock} (h : p.follow bs = some bs')
    (base : List OpenBlock) : p.follow (bs ++ base) = some (bs' ++ base) := by
  have popped : ∀ {b bs bs'}, pop b bs = some bs' → pop b (bs ++ base) = some (bs' ++ base) := by
    intro b bs bs' h
    rw [pop_eq_some_iff] at h ⊢
    rw [h, List.cons_append]
  obtain ⟨level, piece⟩ := p
  cases piece with
  | foldEnd label => exact popped h
  | elifHead | elseHead =>
    obtain ⟨rest, hp, rfl⟩ := Option.map_eq_some_iff.mp h
    exact Option.map_eq_some_iff.mpr ⟨rest ++ base, popped hp, rfl⟩
  | endIf =>
    rcases Option.or_eq_some_iff.mp h with hp | ⟨-, hp⟩
    · exact Option.or_eq_some_iff.mpr (.inl (popped hp))
    · -- the else has begun, so this is not a chain without one
      refine Option.or_eq_some_iff.mpr (.inr ⟨?_, popped hp⟩)
      rw [pop_eq_some_iff.mp hp]
      exact if_neg nofun
  | _ => cases h; rfl

theorem follow_base {bs bs' : List OpenBlock} {ps : List Placed} (h : follow bs ps = some bs')
    (base : List OpenBlock) : follow (bs ++ base) ps = some (bs' ++ base) := by
  induction ps generalizing bs with
  | nil => cases h; rfl
  | cons p rest ih =>
    rw [follow_cons] at h ⊢
    obtain ⟨next, hp, hr⟩ := Option.bind_eq_some_iff.mp h
    rw [p.follow_base hp base, Option.bind_some, ih hr]

/-! ## Blocks -/

/-- Pieces that close what they open, all of them deeper than a level. -/
structure Within (level : Int) (ps : List Placed) : Prop where
  closed : follow [] ps = some []
  deeper : ∀ p ∈ ps, level < p.level

/-- The arms of a conditional at a level after the line that opens it, as far as they have tests.
None of them is empty. -/
inductive Tested (level : Int) : List Placed → Prop
  | first {arm : List Placed} : arm ≠ [] → Within level arm → Tested level arm
  | next {arms arm : List Placed} (test : String) : Tested level arms → arm ≠ [] →
      Within level arm → Tested level (arms ++ ⟨level, .elifHead test⟩ :: arm)

/-- The arms of a conditional at a level: those that have tests, and at most one else. -/
inductive Chained (level : Int) : List Placed → Prop
  | tested {arms : List Placed} : Tested level arms → Chained level arms
  | last {arms arm : List Placed} : Tested level arms → arm ≠ [] → Within level arm →
      Chained level (arms ++ ⟨level, .elseHead⟩ :: arm)

inductive Block : Placed → List Placed → Placed → Prop
  | fold {level : Int} {label : String} {inner : List Placed} : Within level inner →
      Block ⟨level, .foldStart label⟩ inner ⟨level, .foldEnd label⟩
  | conditional {level : Int} {test : String} {inner : List Placed} : Chained level inner →
      Block ⟨level, .ifHead test⟩ inner ⟨level, .endIf⟩

/-- A piece between others has its place in the blocks. -/
structure InPlace (before : List Placed) (p : Placed) (after : List Placed) : Prop where
  /-- The block that it opens is closed. -/
  closed : p.piece.role = .opening → ∃ inner q rest, after = inner ++ q :: rest ∧ Block p inner q
  /-- The block that it closes has been opened. -/
  opened : p.piece.role = .closing → ∃ front q inner, before = front ++ q :: inner ∧ Block q inner p
  /-- The innermost block that is open is a conditional at its level, with tests up to here. -/
  arm : p.piece.role = .arm → ∃ front test arms,
    before = front ++ ⟨p.level, .ifHead test⟩ :: arms ∧ Tested p.level arms

/-- The blocks are nested, and every piece has its place in them. -/
structure Balanced (ps : List Placed) : Prop where
  nested : follow [] ps = some []
  placed : ∀ before p after, ps = before ++ p :: after → InPlace before p after

theorem Within.follow {level : Int} {ps : List Placed} (h : Within level ps)
    (bs : List OpenBlock) : follow bs ps = some bs := follow_base h.closed bs

/-- The line that begins an arm stands in a chain without an else. -/
theorem Within.follow_arm {level : Int} {arm : List Placed} (h : Within level arm)
    (test : Option String) :
    Shell.follow [.chain level false] (⟨level, headPiece false test⟩ :: arm) =
      some [.chain level test.isNone] := by
  have head : Placed.follow ⟨level, headPiece false test⟩ [.chain level false] =
      some [.chain level test.isNone] := by
    cases test <;> simp [headPiece, Placed.follow, pop]
  rw [follow_cons, head, Option.bind_some, h.follow]

theorem Tested.follow {level : Int} {arms : List Placed} (h : Tested level arms) :
    follow [.chain level false] arms = some [.chain level false] := by
  induction h with
  | first _ hw => exact hw.follow _
  | next test _ _ hw ih =>
    rw [follow_append, ih, Option.bind_some]
    exact hw.follow_arm (some test)

theorem Chained.follow {level : Int} {arms : List Placed} (h : Chained level arms) :
    ∃ last, follow [.chain level false] arms = some [.chain level last] := by
  cases h with
  | tested h => exact ⟨false, h.follow⟩
  | last h _ hw =>
    refine ⟨true, ?_⟩
    rw [follow_append, h.follow, Option.bind_some]
    exact hw.follow_arm none

namespace Block

variable {p q : Placed} {inner : List Placed}

theorem role_fst (h : Block p inner q) : p.piece.role = .opening := by
  cases h <;> rfl

theorem role_snd (h : Block p inner q) : q.piece.role = .closing := by
  cases h <;> rfl

theorem follow (h : Block p inner q) : follow [] (p :: (inner ++ [q])) = some [] := by
  cases h with
  | fold h =>
    rw [follow_cons, Placed.follow, Option.bind_some, follow_append, h.follow, Option.bind_some]
    simp [Shell.follow, Placed.follow, pop]
  | conditional h =>
    obtain ⟨last, h⟩ := h.follow
    rw [follow_cons, Placed.follow, Option.bind_some, follow_append, h, Option.bind_some]
    cases last <;> simp [Shell.follow, Placed.follow, pop]

end Block

/-! ## Places -/

namespace InPlace

variable {before after rest inner arms : List Placed} {p q : Placed}

theorem of_line (h : p.piece.role = .line) : InPlace before p after := by
  constructor <;> intro hr <;> cases h.symm.trans hr

theorem of_opening (h : Block p inner q) : InPlace before p (inner ++ q :: rest) where
  closed _ := ⟨inner, q, rest, rfl, h⟩
  opened hr := by cases h.role_fst.symm.trans hr
  arm hr := by cases h.role_fst.symm.trans hr

theorem of_closing (front : List Placed) (h : Block p inner q) :
    InPlace (front ++ p :: inner) q after where
  closed hr := by cases h.role_snd.symm.trans hr
  opened _ := ⟨front, p, inner, rfl, h⟩
  arm hr := by cases h.role_snd.symm.trans hr

theorem of_arm {level : Int} {head : String} (front : List Placed) (h : Tested level arms)
    (test : Option String) :
    InPlace (front ++ ⟨level, .ifHead head⟩ :: arms) ⟨level, headPiece false test⟩ after := by
  have role : (headPiece false test).role = .arm := by cases test <;> rfl
  constructor
  case closed | opened => intro hr; cases role.symm.trans hr
  case arm => exact fun _ => ⟨front, head, arms, rfl, h⟩

theorem widen (h : InPlace before p after) (front back : List Placed) :
    InPlace (front ++ before) p (after ++ back) where
  closed hr := by
    obtain ⟨inner, q, rest, rfl, hb⟩ := h.closed hr
    exact ⟨inner, q, rest ++ back, by simp, hb⟩
  opened hr := by
    obtain ⟨more, q, inner, rfl, hb⟩ := h.opened hr
    exact ⟨front ++ more, q, inner, by simp, hb⟩
  arm hr := by
    obtain ⟨more, test, arms, rfl, ha⟩ := h.arm hr
    exact ⟨front ++ more, test, arms, by simp, ha⟩

end InPlace

/-- Each of the pieces has its place when they stand between others. -/
def Linked (front ps back : List Placed) : Prop :=
  ∀ before p after, ps = before ++ p :: after → InPlace (front ++ before) p (after ++ back)

namespace Linked

variable {front ps qs back : List Placed} {p : Placed}

theorem nil : Linked front [] back := by
  intro before p after h
  cases before <;> cases h

theorem singleton (h : InPlace front p back) : Linked front [p] back := by
  intro before q after he
  cases before with
  | nil =>
    obtain ⟨rfl, rfl⟩ := List.cons.inj he
    simpa using h
  | cons _ rest => cases rest <;> cases he

theorem append (h : Linked front ps (qs ++ back)) (h' : Linked (front ++ ps) qs back) :
    Linked front (ps ++ qs) back := by
  intro before p after he
  rcases List.append_eq_append_iff.mp he with ⟨middle, rfl, hq⟩ | ⟨middle, rfl, hq⟩
  · rw [← List.append_assoc]
    exact h' middle p after hq
  · cases middle with
    | nil => simpa using h' [] p after hq.symm
    | cons q rest =>
      rw [List.cons_append] at hq
      obtain ⟨rfl, rfl⟩ := List.cons.inj hq
      rw [List.append_assoc]
      exact h before p rest rfl

theorem cons (h : InPlace front p (ps ++ back)) (h' : Linked (front ++ [p]) ps back) :
    Linked front (p :: ps) back := (singleton h).append h'

end Linked

namespace Balanced

variable {ps qs inner : List Placed} {p q : Placed}

theorem linked (h : Balanced ps) (front back : List Placed) : Linked front ps back :=
  fun before p after he => (h.placed before p after he).widen front back

theorem of_linked (hn : follow [] ps = some []) (h : Linked [] ps []) : Balanced ps where
  nested := hn
  placed before p after he := by simpa using h before p after he

theorem of_lines (h : ∀ p ∈ ps, p.piece.role = .line) : Balanced ps where
  nested := follow_of_lines h []
  placed before p after he := .of_line (h p (by simp [he]))

theorem append (h : Balanced ps) (h' : Balanced qs) : Balanced (ps ++ qs) := by
  refine of_linked ?_ ((h.linked _ _).append (h'.linked _ _))
  rw [follow_append, h.nested, Option.bind_some, h'.nested]

theorem of_block (h : Block p inner q) (hi : Linked [p] inner [q]) :
    Balanced (p :: (inner ++ [q])) := by
  refine of_linked h.follow (.cons ?_ (.append ?_ (.singleton ?_)))
  · rw [List.append_nil]
    exact .of_opening h
  · exact hi
  · exact .of_closing [] h

end Balanced

/-! ## Scripts -/

structure BalancedFrom (level : Int) (ps : List Placed) : Prop where
  balanced : Balanced ps
  level_le : ∀ p ∈ ps, level ≤ p.level

namespace BalancedFrom

variable {level : Int} {ps qs : List Placed}

theorem of_lines {pieces : List Piece} (h : ∀ p ∈ pieces, p.role = .line) :
    BalancedFrom level (pieces.map (Placed.mk level)) where
  balanced := .of_lines (List.forall_mem_map.mpr h)
  level_le := List.forall_mem_map.mpr fun _ _ => Int.le_refl level

theorem of_line {p : Piece} (h : p.role = .line) : BalancedFrom level [⟨level, p⟩] :=
  of_lines (List.forall_mem_singleton.mpr h)

theorem nil : BalancedFrom level [] := ⟨.of_lines (List.forall_mem_nil _), List.forall_mem_nil _⟩

theorem append (h : BalancedFrom level ps) (h' : BalancedFrom level qs) :
    BalancedFrom level (ps ++ qs) where
  balanced := h.balanced.append h'.balanced
  level_le := List.forall_mem_append.mpr ⟨h.level_le, h'.level_le⟩

theorem within (h : BalancedFrom (level + 1) ps) : Within level ps where
  closed := h.balanced.nested
  deeper p hp := Int.lt_of_add_one_le (h.level_le p hp)

end BalancedFrom

theorem Command.role_of_mem_pieces {c : Command} : ∀ p ∈ c.pieces, p.role = .line := by
  intro p hp
  simp only [pieces, List.mem_append, List.mem_ite_nil_right, List.mem_singleton] at hp
  obtain (((⟨_, rfl⟩ | ⟨_, rfl⟩) | rfl) | ⟨_, rfl⟩) | ⟨_, rfl⟩ := hp
  case inl.inl.inr => split <;> rfl
  all_goals rfl

theorem Export.role_of_mem_pieces {e : Export} : ∀ p ∈ e.pieces, p.role = .line := by
  intro p hp
  simp only [pieces, List.mem_append, List.mem_ite_nil_right, List.mem_singleton] at hp
  obtain ⟨_, rfl⟩ | rfl := hp <;> rfl

/-- Arms that follow others with tests complete their conditional, and their pieces have their
places after those of the others. -/
theorem Tested.chained_branchPieces {level : Int} {arms : List Placed} (h : Tested level arms)
    (head : String) {branches : List Branch}
    (ht : ∀ arm ∈ branches.dropLast, arm.test ≠ none)
    (hb : ∀ arm ∈ branches, BalancedFrom (level + 1) (armPieces (level + 1) arm.body))
    (back : List Placed) :
    Chained level (arms ++ branchPieces level false branches) ∧
      Linked (⟨level, .ifHead head⟩ :: arms) (branchPieces level false branches) back := by
  -- over the arms to come, each of which is among those before once it has been passed
  induction branches generalizing arms with
  | nil =>
    rw [branchPieces, List.append_nil]
    exact ⟨.tested h, .nil⟩
  | cons branch rest ih =>
    obtain ⟨test, body⟩ := branch
    obtain ⟨ha, hr⟩ := List.forall_mem_cons.mp hb
    have filled := armPieces_ne_nil (level + 1) body
    rw [branchPieces_cons]
    cases test with
    | some test =>
      have next := h.next test filled ha.within
      obtain ⟨hc, hl⟩ := ih next (fun arm harm => ht arm (mem_dropLast_cons harm)) hr
      rw [List.append_assoc, List.cons_append] at hc
      refine ⟨hc, .cons (.of_arm [] h (some test)) (.append (ha.balanced.linked _ _) ?_)⟩
      rwa [List.append_assoc]
    | none =>
      cases rest with
      | nil =>
        rw [branchPieces, List.append_nil]
        exact ⟨.last h filled ha.within, .cons (.of_arm [] h none) (ha.balanced.linked _ _)⟩
      | cons => exact absurd rfl (ht _ List.mem_cons_self)

theorem level_le_branchPieces {level : Int} {branches : List Branch}
    (hb : ∀ arm ∈ branches, BalancedFrom (level + 1) (armPieces (level + 1) arm.body))
    (first : Bool) : ∀ p ∈ branchPieces level first branches, level ≤ p.level := by
  induction branches generalizing first with
  | nil => exact List.forall_mem_nil _
  | cons branch rest ih =>
    obtain ⟨test, body⟩ := branch
    obtain ⟨ha, hr⟩ := List.forall_mem_cons.mp hb
    rw [branchPieces_cons]
    refine List.forall_mem_cons.mpr ⟨Int.le_refl level, List.forall_mem_append.mpr ⟨?_, ih hr false⟩⟩
    exact fun p hp => Int.le_of_lt (ha.within.deeper p hp)

theorem balancedFrom_conditional {level : Int} {arms : List Branch} (h : Branch.Chain arms)
    (hb : ∀ arm ∈ arms, BalancedFrom (level + 1) (armPieces (level + 1) arm.body)) :
    BalancedFrom level ((Node.conditional arms).pieces level) := by
  refine ⟨?_, List.forall_mem_append.mpr
    ⟨level_le_branchPieces hb true, List.forall_mem_singleton.mpr (Int.le_refl level)⟩⟩
  obtain ⟨⟨⟨test, body⟩, rest, rfl, ht⟩, hd⟩ := h
  obtain ⟨test, rfl⟩ := Option.ne_none_iff_exists'.mp ht
  obtain ⟨ha, hr⟩ := List.forall_mem_cons.mp hb
  have first : Tested level (armPieces (level + 1) body) :=
    .first (armPieces_ne_nil (level + 1) body) ha.within
  obtain ⟨hc, hl⟩ := first.chained_branchPieces test
    (fun arm harm => hd arm (mem_dropLast_cons harm)) hr [⟨level, .endIf⟩]
  rw [Node.pieces, branchPieces_cons]
  exact .of_block (.conditional hc) (.append (ha.balanced.linked _ _) hl)

mutual

theorem Node.balancedFrom_pieces (level : Int) (n : Node) (h : n.WellFormed) :
    BalancedFrom level (n.pieces level) := by
  cases n with
  | command c => exact .of_lines c.role_of_mem_pieces
  | assign e => exact .of_lines e.role_of_mem_pieces
  | raw text => exact .of_line rfl
  | fold label body =>
    have hb := balancedFrom_bodyPieces (level + 1) body h
    refine ⟨.of_block (.fold hb.within) (hb.balanced.linked _ _), ?_⟩
    refine List.forall_mem_cons.mpr ⟨Int.le_refl level, List.forall_mem_append.mpr ⟨?_, ?_⟩⟩
    · exact fun p hp => Int.le_of_lt (hb.within.deeper p hp)
    · exact List.forall_mem_singleton.mpr (Int.le_refl level)
  | conditional arms => exact balancedFrom_conditional h.1 (balancedFrom_armPieces level arms h.2)

theorem balancedFrom_bodyPieces (level : Int) (ns : List Node) (h : Script.WellFormed ns) :
    BalancedFrom level (bodyPieces level ns) := by
  cases ns with
  | nil => exact .nil
  | cons n rest =>
    exact (n.balancedFrom_pieces level h.1).append (balancedFrom_bodyPieces level rest h.2)

theorem balancedFrom_armPieces (level : Int) (arms : List Branch) (h : Branch.AllWellFormed arms) :
    ∀ arm ∈ arms, BalancedFrom (level + 1) (armPieces (level + 1) arm.body) := by
  match arms with
  | [] => exact List.forall_mem_nil _
  | ⟨test, body⟩ :: rest =>
    refine List.forall_mem_cons.mpr ⟨?_, balancedFrom_armPieces level rest h.2⟩
    unfold armPieces
    split
    · exact .of_line rfl
    · exact balancedFrom_bodyPieces (level + 1) body h.1

end

/-! ## Builders -/

theorem Call.sound_runAll (calls : List Call) {d : Draft} (h : d.builder.Sound) :
    (runAll calls d).2.builder.Sound := by
  induction calls generalizing d with
  | nil => exact h
  | cons call rest ih =>
    rw [runAll_cons]
    cases he : call.effect d.builder with
    | error f =>
      rw [Drafting.bind_error (by rw [run_apply, he])]
      exact h
    | ok b =>
      rw [Drafting.bind_ok (run_of_effect_ok he)]
      exact ih (effect_spec h he).1

namespace Turn

theorem sound_run (t : Turn) {d : Draft} (h : d.builder.Sound) : (t.run d).2.builder.Sound := by
  cases t with
  | step s =>
    rw [run, Step.perform_eq]
    exact Call.sound_runAll s.calls h
  | finish =>
    rcases finish_cases d with he | ⟨-, hb⟩
    · rw [he]
      exact h
    · rw [hb]
      exact ⟨h.root, h.frames⟩

theorem sound_after (turns : List Turn) {d : Draft} (h : d.builder.Sound) :
    (after d turns).builder.Sound := by
  induction turns generalizing d with
  | nil => exact h
  | cons t rest ih => exact ih (t.sound_run h)

end Turn

/-- Whatever was asked of a builder, and whatever of it failed, a script that it finishes has
balanced blocks. -/
theorem balanced_of_finish {turns : List Turn} {s : Script} {d : Draft}
    (h : Drafting.finish (Turn.after {} turns) = (.ok s, d)) (level : Int) :
    Balanced (bodyPieces level s) := by
  have sound := Turn.sound_after turns (d := {}) Builder.sound_empty
  cases hf : (Turn.after {} turns).builder.finish with
  | error e => rw [Drafting.finish_error hf] at h; cases h
  | ok sb =>
    obtain ⟨-, -, hs, -⟩ := Builder.of_finish hf
    rw [Drafting.finish_ok hf] at h
    cases h
    rw [hs]
    exact (balancedFrom_bodyPieces level _ sound.root).balanced

def insistent : List Turn := [
  .step (.openFold "unit tests"),
  .step (.elseIf "[ -f Makefile ]"),
  .step (.openConditional "[ -f Rakefile ]"),
  .finish,
  .step (.elseIf "[ -f Makefile ]"),
  .step (.raw "make"),
  .step .orElse,
  .step (.elseIf "[ -f Gemfile ]"),
  .step .close,
  .step .close,
  .step .close]

theorem balanced_of_insistent :
    ∃ script d, Drafting.finish (Turn.after {} insistent) = (.ok script, d) ∧
      script = [.fold "unit tests" [.conditional [⟨some "[ -f Rakefile ]", []⟩,
        ⟨some "[ -f Makefile ]", [.raw "make"]⟩, ⟨none, []⟩]]] ∧
      Balanced (bodyPieces 0 script) :=
  ⟨_, _, rfl, rfl, @balanced_of_finish insistent _ _ rfl 0⟩

end BuildScript.Shell

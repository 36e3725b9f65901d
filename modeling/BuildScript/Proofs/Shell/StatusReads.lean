import BuildScript.Proofs.Shell.Layout
import BuildScript.Proofs.Shell.Veil
import BuildScript.Proofs.Stage.Completed

/-! # Reads of exit statuses

The statements of the compiler that look at the status of the last command stand right after the
piece that executes the command they judge, or after the end of its timing, which hands the status on.
To say which command that is, the pieces of a script are listed with the commands they are part of.
-/

namespace BuildScript.Shell

open Drafting

/-- A piece with the command that it is part of, if there is one. -/
structure Owned where
  placed : Placed
  owner : Option Command := none

namespace Owned

def level (p : Owned) : Int := p.placed.level

def piece (p : Owned) : Piece := p.placed.piece

def of (c : Command) (level : Int) (piece : Piece) : Owned := ⟨⟨level, piece⟩, some c⟩

end Owned

mutual

def Node.owned (level : Int) : Node → List Owned
  | .command c => c.pieces.map (Owned.of c level)
  | .assign e => e.pieces.map fun piece => ⟨⟨level, piece⟩, none⟩
  | .raw text => [⟨⟨level, .raw text⟩, none⟩]
  | .fold label body =>
    ⟨⟨level, .foldStart label⟩, none⟩ ::
      (ownedBody (level + 1) body ++ [⟨⟨level, .foldEnd label⟩, none⟩])
  | .conditional branches => ownedBranches level true branches ++ [⟨⟨level, .endIf⟩, none⟩]

def ownedBody (level : Int) : List Node → List Owned
  | [] => []
  | node :: rest => node.owned level ++ ownedBody level rest

def ownedBranches (level : Int) (first : Bool) : List Branch → List Owned
  | [] => []
  | ⟨test, []⟩ :: rest =>
    ⟨⟨level, headPiece first test⟩, none⟩ :: ⟨⟨level + 1, .placeholder⟩, none⟩ ::
      ownedBranches level false rest
  | ⟨test, node :: body⟩ :: rest =>
    ⟨⟨level, headPiece first test⟩, none⟩ ::
      (node.owned (level + 1) ++ ownedBody (level + 1) body ++ ownedBranches level false rest)

end

mutual

theorem Node.map_owned (level : Int) (n : Node) :
    (n.owned level).map Owned.placed = n.pieces level := by
  cases n with
  | command | assign =>
    rw [Node.owned, Node.pieces, List.map_map]
    rfl
  | raw => rfl
  | fold label body =>
    rw [Node.owned, Node.pieces, List.map_cons, List.map_append, map_ownedBody _ body]
    rfl
  | conditional branches =>
    rw [Node.owned, Node.pieces, List.map_append, map_ownedBranches _ _ branches]
    rfl

theorem map_ownedBody (level : Int) (ns : List Node) :
    (ownedBody level ns).map Owned.placed = bodyPieces level ns := by
  cases ns with
  | nil => rfl
  | cons n rest =>
    rw [ownedBody, bodyPieces, List.map_append, n.map_owned level, map_ownedBody level rest]

theorem map_ownedBranches (level : Int) (first : Bool) (branches : List Branch) :
    (ownedBranches level first branches).map Owned.placed = branchPieces level first branches := by
  cases branches with
  | nil => rfl
  | cons arm rest =>
    obtain ⟨test, body⟩ := arm
    cases body with
    | nil =>
      rw [ownedBranches, branchPieces, List.map_cons, List.map_cons, map_ownedBranches _ _ rest]
    | cons n more =>
      rw [ownedBranches, branchPieces, List.map_cons, List.map_append, List.map_append,
        n.map_owned, map_ownedBody _ more, map_ownedBranches _ _ rest]

end

theorem ownedBody_append (level : Int) (ns ms : List Node) :
    ownedBody level (ns ++ ms) = ownedBody level ns ++ ownedBody level ms := by
  induction ns with
  | nil => rfl
  | cons n rest ih => rw [List.cons_append, ownedBody, ih, ownedBody, List.append_assoc]

theorem ownedBody_singleton (level : Int) (n : Node) : ownedBody level [n] = n.owned level :=
  List.append_nil _

def Piece.readsStatus : Piece → Bool
  | .assertResult => true
  | .raw text => text == "cibuild_result $?"
  | _ => false

/-- The pieces end with the one that executes a command at the level, followed by the end of its
timing if it is timed. -/
def EndsExecuted (level : Int) (c : Command) (ps : List Owned) : Prop :=
  ∃ front, ps = front ++ .of c level c.executed :: if c.timing then [.of c level .timeFinish] else []

/-- A piece that reads a status judges a command that is executed right before it: its own, which is
asserted, or one of the tests, which are not. -/
structure Judges (tests : List String) (before : List Owned) (p : Owned) : Prop where
  asserts (h : p.piece = .assertResult) :
    ∃ c, p.owner = some c ∧ c.asserted = true ∧ EndsExecuted p.level c before
  records (h : p.piece = .raw "cibuild_result $?") :
    ∃ text ∈ tests, EndsExecuted p.level (Profile.test text) before

/-- Each piece has before it what it judges, if it reads a status. -/
def Judged (tests : List String) (ps : List Owned) : Prop :=
  ∀ before p after, ps = before ++ p :: after → Judges tests before p

theorem EndsExecuted.prepend {level : Int} {c : Command} {ps : List Owned}
    (h : EndsExecuted level c ps) (qs : List Owned) : EndsExecuted level c (qs ++ ps) := by
  obtain ⟨front, rfl⟩ := h
  exact ⟨qs ++ front, (List.append_assoc ..).symm⟩

/-- No read of a status comes last where a command has just been executed. -/
theorem EndsExecuted.last_not_reads {level : Int} {c : Command} {ps : List Owned} {p : Owned}
    (h : EndsExecuted level c (ps ++ [p])) : p.piece.readsStatus = false := by
  obtain ⟨front, he⟩ := h
  cases ht : c.timing with
  | false =>
    rw [ht] at he
    obtain ⟨-, hp⟩ := List.append_inj' he rfl
    cases hp
    change c.executed.readsStatus = false
    unfold Command.executed
    split <;> rfl
  | true =>
    have timed : ps ++ [p] = (front ++ [.of c level c.executed]) ++ [.of c level .timeFinish] := by
      rw [he, ht, List.append_assoc]
      rfl
    obtain ⟨-, hp⟩ := List.append_inj' timed rfl
    cases hp
    rfl

section Judged

variable {tests : List String} {before ps qs : List Owned} {p : Owned}

theorem Judges.prepend (h : Judges tests before p) (qs : List Owned) :
    Judges tests (qs ++ before) p where
  asserts ha := by
    obtain ⟨c, ho, hc, he⟩ := h.asserts ha
    exact ⟨c, ho, hc, he.prepend qs⟩
  records hr := by
    obtain ⟨text, ht, he⟩ := h.records hr
    exact ⟨text, ht, he.prepend qs⟩

theorem Judges.of_not_reads (h : p.piece.readsStatus = false) : Judges tests before p where
  asserts ha := by
    rw [ha] at h
    cases h
  records hr := by
    rw [hr] at h
    cases h

namespace Judged

theorem of_none (h : ∀ p ∈ ps, p.piece.readsStatus = false) : Judged tests ps := by
  rintro before p after rfl
  exact .of_not_reads (h p (by simp))

theorem append (h : Judged tests ps) (h' : Judged tests qs) : Judged tests (ps ++ qs) := by
  intro before p after he
  rcases List.append_eq_append_iff.mp he with ⟨middle, rfl, hq⟩ | ⟨middle, rfl, hq⟩
  · exact (h' middle p after hq).prepend ps
  · cases middle with
    | nil =>
      have first := (h' [] p after hq.symm).prepend (before ++ [])
      simpa using first
    | cons q rest =>
      obtain ⟨rfl, -⟩ := List.cons.inj hq
      exact h before p rest rfl

theorem singleton (h : p.piece.readsStatus = false) : Judged tests [p] :=
  of_none (List.forall_mem_singleton.mpr h)

theorem concat (h : Judged tests ps) (hp : Judges tests ps p) : Judged tests (ps ++ [p]) := by
  intro before q after he
  rcases List.append_eq_append_iff.mp he with ⟨middle, rfl, hm⟩ | ⟨middle, rfl, hm⟩
  · cases middle with
    | nil =>
      obtain ⟨rfl, -⟩ := List.cons.inj hm
      rwa [List.append_nil]
    | cons _ rest => cases rest <;> cases hm
  · cases middle with
    | nil =>
      obtain ⟨rfl, -⟩ := List.cons.inj hm
      rwa [List.append_nil] at hp
    | cons _ rest =>
      obtain ⟨rfl, -⟩ := List.cons.inj hm
      exact h before q rest rfl

theorem not_twice (h : Judged tests ps) {after : List Owned} {q : Owned}
    (he : ps = before ++ p :: q :: after) (hp : p.piece.readsStatus) : ¬q.piece.readsStatus := by
  have judges : Judges tests (before ++ [p]) q := h _ q after (by rw [he, List.append_assoc]; rfl)
  have executed {c : Command} (hc : EndsExecuted q.level c (before ++ [p])) : False :=
    Bool.false_ne_true (hc.last_not_reads.symm.trans hp)
  intro hq
  obtain ⟨⟨level, piece⟩, owner⟩ := q
  cases piece with
  | assertResult =>
    obtain ⟨c, -, -, hc⟩ := judges.asserts rfl
    exact executed hc
  | raw text =>
    have record : text = "cibuild_result $?" := beq_iff_eq.mp hq
    obtain ⟨_, -, hc⟩ := judges.records (congrArg Piece.raw record)
    exact executed hc
  | _ => cases hq

end Judged

end Judged

/-! ## Pieces of commands -/

namespace Command

/-- The pieces of a command up to where its status can be read. -/
def ran (level : Int) (c : Command) : List Owned :=
  (c.before ++ c.executed :: if c.timing then [.timeFinish] else []).map (.of c level)

variable {tests : List String} (level : Int) (c : Command)

theorem owned_eq :
    (Node.command c).owned level =
      c.ran level ++ if c.asserted then [.of c level .assertResult] else [] := by
  rw [Node.owned, c.pieces_eq, ran, after]
  cases c.asserted <;> simp

theorem endsExecuted_ran : EndsExecuted level c (c.ran level) := by
  refine ⟨c.before.map (.of c level), ?_⟩
  rw [ran, List.map_append, List.map_cons]
  cases c.timing <;> rfl

theorem judged_ran : Judged tests (c.ran level) := by
  refine .of_none (List.forall_mem_map.mpr fun p hp => ?_)
  have hx : c.executed.readsStatus = false := by
    unfold executed
    split <;> rfl
  rcases List.mem_append.mp hp with hb | hr
  · simp only [before, List.mem_append, List.mem_ite_nil_right, List.mem_singleton] at hb
    obtain ⟨_, rfl⟩ | ⟨_, rfl⟩ := hb <;> rfl
  · simp only [List.mem_cons, List.mem_ite_nil_right, List.not_mem_nil, or_false] at hr
    obtain rfl | ⟨_, rfl⟩ := hr
    · exact hx
    · rfl

theorem judged_owned : Judged tests ((Node.command c).owned level) := by
  rw [owned_eq]
  split
  · next ha =>
    refine (c.judged_ran level).concat ⟨fun _ => ⟨c, rfl, ha, c.endsExecuted_ran level⟩, nofun⟩
  · rw [List.append_nil]
    exact c.judged_ran level

end Command

theorem Export.judged_owned {tests : List String} (level : Int) (e : Export) :
    Judged tests ((Node.assign e).owned level) := by
  refine .of_none (List.forall_mem_map.mpr fun p hp => ?_)
  simp only [pieces, List.mem_append, List.mem_ite_nil_right, List.mem_singleton] at hp
  obtain ⟨_, rfl⟩ | rfl := hp <;> rfl

/-! ## Pieces of scripts -/

/-- At every level the pieces of the nodes that read statuses have before them what they judge. -/
def JudgedNodes (tests : List String) (ns : List Node) : Prop :=
  ∀ level, Judged tests (ownedBody level ns)

theorem readsStatus_headPiece (first : Bool) (test : Option String) :
    (headPiece first test).readsStatus = false := by
  cases test <;> cases first <;> rfl

variable {tests : List String}

theorem judged_ownedBranches {branches : List Branch}
    (h : ∀ arm ∈ branches, JudgedNodes tests arm.body) (level : Int) (first : Bool) :
    Judged tests (ownedBranches level first branches) := by
  induction branches generalizing first with
  | nil => exact .of_none (List.forall_mem_nil _)
  | cons arm rest ih =>
    obtain ⟨test, body⟩ := arm
    obtain ⟨hb, hr⟩ := List.forall_mem_cons.mp h
    have head : Judged tests [⟨⟨level, headPiece first test⟩, none⟩] :=
      .singleton (readsStatus_headPiece first test)
    cases body with
    | nil =>
      have filler : Judged tests [⟨⟨level + 1, .placeholder⟩, none⟩] := .singleton rfl
      exact head.append (filler.append (ih hr false))
    | cons n more => exact head.append ((hb (level + 1)).append (ih hr false))

instance : Kept (JudgedNodes tests) where
  nil _ := .of_none (List.forall_mem_nil _)
  append hn hm level := by
    rw [ownedBody_append]
    exact (hn level).append (hm level)
  command c level := by
    rw [ownedBody_singleton]
    exact c.judged_owned level
  assign e level := by
    rw [ownedBody_singleton]
    exact e.judged_owned level
  raw h level := .singleton (beq_eq_false_iff_ne.mpr h)
  fold label ns h level := by
    rw [ownedBody_singleton]
    have start : Judged tests [⟨⟨level, .foldStart label⟩, none⟩] := .singleton rfl
    have stop : Judged tests [⟨⟨level, .foldEnd label⟩, none⟩] := .singleton rfl
    exact start.append ((h (level + 1)).append stop)
  conditional h level := by
    rw [ownedBody_singleton]
    exact (judged_ownedBranches h level true).append (.singleton rfl)

/-- The record of a result stands right after the test that it judges. -/
theorem judged_testNodes {text : String} (h : text ∈ tests) :
    JudgedNodes tests (Profile.testNodes text false) := by
  intro level
  have hc : ownedBody level (Profile.testNodes text false) =
      (Profile.test text).ran level ++ [⟨⟨level, .raw "cibuild_result $?"⟩, none⟩] := rfl
  rw [hc]
  exact (Command.judged_ran level _).concat
    ⟨nofun, fun _ => ⟨text, h, Command.endsExecuted_ran level _⟩⟩

end BuildScript.Shell

namespace BuildScript.Compiler

open Shell

/-- In both scripts of every build each assertion follows the execution of its own command, which is
asserted, and each record that of a test of the build, which is not; no more than the end of the
timing of that command stands between. No two reads follow each other. -/
theorem statuses_read_at_once {r : Resolution} {co : Option Entries} {c : Compiled}
    (h : (build r co).1 = .ok c) (level : Int) (s : Script)
    (hs : s = c.body ∨ c.finish = some s) :
    (ownedBody level s).map Owned.placed = bodyPieces level s ∧
    (∀ before p after, ownedBody level s = before ++ p :: after → p.piece = .assertResult →
      ∃ d, p.owner = some d ∧ d.asserted = true ∧ EndsExecuted p.level d before) ∧
    (∀ before p after, ownedBody level s = before ++ p :: after →
      p.piece = .raw "cibuild_result $?" →
      ∃ text ∈ c.tests, EndsExecuted p.level (Profile.test text) before) ∧
    (∀ text, (Profile.test text).asserted = false) ∧
    ∀ before p q after, ownedBody level s = before ++ p :: q :: after → p.piece.readsStatus →
      ¬q.piece.readsStatus := by
  obtain ⟨body, finish⟩ := kept_of_build (P := JudgedNodes c.tests) h fun _ => judged_testNodes
  have judged : Judged c.tests (ownedBody level s) := by
    rcases hs with rfl | hf
    · exact body level
    · exact finish s hf level
  exact ⟨map_ownedBody level s, fun before p after he => (judged before p after he).asserts,
    fun before p after he => (judged before p after he).records, fun _ => rfl,
    fun _ _ _ _ he => judged.not_twice he⟩

def bareSpec (language : String) : Resolution :=
  ⟨{ config := [(.text "language", .text language)] }, .configured⟩

/-- A profile with asserted commands and a recorded one: the record stands behind the test. -/
theorem statuses_read_at_once_haskell :
    ∃ c before after, (build (bareSpec "haskell") none).1 = .ok c ∧
      (∃ p ∈ bodyPieces 0 c.body, p.piece = .assertResult) ∧
      ownedBody 0 c.body =
        before ++ ⟨⟨0, .raw "cibuild_result $?"⟩, none⟩ :: after ∧
      EndsExecuted 0 (Profile.test "cabal configure --enable-tests && cabal build && cabal test")
        before := by
  obtain ⟨c, hb, hp⟩ := exists_of_any (P := fun c =>
      (bodyPieces 0 c.body).any (fun p => p.piece = .assertResult) &&
        ((ownedBody 0 c.body).any (fun p => p.owner = none ∧
          p.placed = ⟨0, .raw "cibuild_result $?"⟩) && decide (c.tests = Profile.haskell.ownTests)))
    (show (build (bareSpec "haskell") none).1.toOption.any _ = true by decide +kernel)
  simp only [Bool.and_eq_true, List.any_eq_true, decide_eq_true_eq] at hp
  obtain ⟨asserted, ⟨⟨placed, owner⟩, hm, rfl, rfl⟩, tests⟩ := hp
  obtain ⟨before, after, he⟩ := List.append_of_mem hm
  obtain ⟨-, -, records, -⟩ := statuses_read_at_once hb 0 c.body (.inl rfl)
  obtain ⟨text, ht, judged⟩ := records before _ after he rfl
  rw [tests] at ht
  cases List.mem_singleton.mp ht
  exact ⟨c, before, after, hb, asserted, he, judged⟩

end BuildScript.Compiler

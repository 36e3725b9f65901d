import BuildScript.Shell.Node

/-! # Paths through a script

The statements that one run of a script executes: those of every fold, and of each conditional those
of one arm, or of none if it has no else. Scripts one after the other are run one after the other,
and each script has a path.
-/

namespace BuildScript.Shell

mutual

/-- A way through a node, given by the commands, assignments and literal lines that lie on it. -/
inductive Way : Node → List Node → Prop
  | command (c : Command) : Way (.command c) [.command c]
  | assign (e : Export) : Way (.assign e) [.assign e]
  | raw (text : String) : Way (.raw text) [.raw text]
  | fold (label : String) {body leaves : List Node} (h : Path body leaves) :
    Way (.fold label body) leaves
  | arm {branches : List Branch} {arm : Branch} {leaves : List Node} (ha : arm ∈ branches)
    (h : Path arm.body leaves) : Way (.conditional branches) leaves
  | past {branches : List Branch} (h : ∀ arm ∈ branches, arm.test ≠ none) :
    Way (.conditional branches) []

inductive Path : List Node → List Node → Prop
  | nil : Path [] []
  | cons {n : Node} {ns first rest : List Node} (hn : Way n first) (h : Path ns rest) :
    Path (n :: ns) (first ++ rest)

end

namespace Path

variable {n : Node} {ns ms leaves later : List Node}

theorem append (h : Path ns leaves) (h' : Path ms later) : Path (ns ++ ms) (leaves ++ later) := by
  induction ns generalizing leaves with
  | nil =>
    cases h
    exact h'
  | cons n rest ih =>
    obtain _ | ⟨hn, hr⟩ := h
    rw [List.append_assoc]
    exact .cons hn (ih hr)

theorem append_iff :
    Path (ns ++ ms) leaves ↔
      ∃ first second, leaves = first ++ second ∧ Path ns first ∧ Path ms second := by
  constructor
  · intro h
    induction ns generalizing leaves with
    | nil => exact ⟨[], leaves, rfl, .nil, h⟩
    | cons n rest ih =>
      obtain _ | ⟨hn, hr⟩ := h
      obtain ⟨first, second, rfl, hf, hs⟩ := ih hr
      exact ⟨_, second, (List.append_assoc ..).symm, .cons hn hf, hs⟩
  · rintro ⟨first, second, rfl, hf, hs⟩
    exact hf.append hs

theorem singleton_iff : Path [n] leaves ↔ Way n leaves := by
  constructor
  · intro h
    obtain _ | ⟨hn, hr⟩ := h
    cases hr
    rwa [List.append_nil]
  · intro h
    have hs := Path.cons h .nil
    rwa [List.append_nil] at hs

end Path

mutual

theorem Node.exists_way (n : Node) : ∃ leaves, Way n leaves := by
  cases n with
  | command c => exact ⟨_, .command c⟩
  | assign e => exact ⟨_, .assign e⟩
  | raw text => exact ⟨_, .raw text⟩
  | fold label body =>
    obtain ⟨leaves, h⟩ := exists_path body
    exact ⟨leaves, .fold label h⟩
  | conditional branches =>
    by_cases h : ∀ arm ∈ branches, arm.test ≠ none
    · exact ⟨[], .past h⟩
    · obtain ⟨arm, ha, -⟩ : ∃ arm ∈ branches, arm.test = none := by simpa using h
      obtain ⟨leaves, hl⟩ := exists_path_of_mem branches arm ha
      exact ⟨leaves, .arm ha hl⟩

theorem exists_path (ns : List Node) : ∃ leaves, Path ns leaves := by
  cases ns with
  | nil => exact ⟨[], .nil⟩
  | cons n rest =>
    obtain ⟨first, hf⟩ := n.exists_way
    obtain ⟨second, hs⟩ := exists_path rest
    exact ⟨first ++ second, .cons hf hs⟩

theorem exists_path_of_mem (branches : List Branch) :
    ∀ arm ∈ branches, ∃ leaves, Path arm.body leaves := by
  cases branches with
  | nil => nofun
  | cons arm rest =>
    obtain ⟨test, body⟩ := arm
    exact List.forall_mem_cons.mpr ⟨exists_path body, exists_path_of_mem rest⟩

end

end BuildScript.Shell

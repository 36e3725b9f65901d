import Mathlib.Data.List.Infix
import BuildScript.Proofs.Shell.Layout
import BuildScript.Proofs.Shell.Nesting
import BuildScript.Proofs.Text.Words

/-! # Reading scripts back

Scripts of literal lines, folds and conditionals in which no literal line can be taken for a line of
a block. Without its indentation each line tells its piece, and the pieces tell the script: those of
a node are known by the first of them, and whatever follows them, they end where the node ends. So
no two such scripts have one text.
-/

namespace BuildScript.Shell

open Text

/-- A literal line that is not taken for a line of a block, nor its text for an indentation. -/
structure IsPlainLine (text : String) : Prop where
  oneLine : '\n' ∉ text.toList
  noLine : text ∉ ["", ":", "else", "fi"]
  noHead : ∀ head ∈ [" ", "if ", "elif ", "cibuild_fold "], ¬head.toList <+: text.toList

mutual

/-- The node is made of plain lines, folds and chains of arms, with labels and tests of one line. -/
def Node.Legible : Node → Prop
  | .command _ | .assign _ => False
  | .raw text => IsPlainLine text
  | .fold label body => '\n' ∉ label.toList ∧ Script.Legible body
  | .conditional arms => Branch.Chain arms ∧ Branch.AllLegible arms

def Script.Legible : List Node → Prop
  | [] => True
  | n :: rest => n.Legible ∧ Script.Legible rest

def Branch.AllLegible : List Branch → Prop
  | [] => True
  | ⟨test, body⟩ :: rest =>
    (∀ t ∈ test, '\n' ∉ t.toList) ∧ Script.Legible body ∧ Branch.AllLegible rest

end

def Piece.Legible : Piece → Prop
  | .raw text => IsPlainLine text
  | .foldStart text | .foldEnd text | .ifHead text | .elifHead text => '\n' ∉ text.toList
  | .elseHead | .placeholder | .endIf => True
  | .timeStart | .preview _ _ | .run _ | .retry _ | .timeFinish | .assertResult | .assign _ _ => False

/-! ## Lines tell pieces -/

def unquoted (cs : List Char) : String :=
  String.ofList ((shellWords (String.ofList cs)).flatten.map fun
    | .literal c | .active c => c)

theorem unquoted_shellQuote (s : String) : unquoted (shellQuote s).toList = s := by
  rw [unquoted, String.ofList_toList, (spells_shellQuote s).reads_plain.shellWords_eq]
  simp [plain, Function.comp_def]

def tested (cs : List Char) : String := String.ofList (cs.take (cs.length - 6))

theorem tested_append (test : String) : tested (test.toList ++ "; then".toList) = test := by
  rw [tested, List.length_append]
  simp

theorem toList_test (head test : String) :
    (head ++ test ++ "; then").toList = head.toList ++ (test.toList ++ "; then".toList) := by
  rw [String.toList_append, String.toList_append, List.append_assoc]

/-- What lines of blocks begin with, and what the rest of such a line tells. -/
def heads : List (String × (List Char → Piece)) := [
  ("if ", fun rest => .ifHead (tested rest)),
  ("elif ", fun rest => .elifHead (tested rest)),
  ("cibuild_fold start ", fun rest => .foldStart (unquoted rest)),
  ("cibuild_fold end ", fun rest => .foldEnd (unquoted rest))]

theorem heads_prefixFree : heads.Pairwise fun h k =>
    ¬h.1.toList <+: k.1.toList ∧ ¬k.1.toList <+: h.1.toList := by
  decide

theorem isPrefixOf?_eq_none {as bs : List Char} (h : ¬as <+: bs) : as.isPrefixOf? bs = none :=
  Option.eq_none_iff_forall_ne_some.mpr fun rest hr =>
    h ⟨rest, List.isPrefixOf?_eq_some_iff_append_eq.mp hr⟩

def headed? (cs : List Char) : Option Piece :=
  heads.findSome? fun h => (h.1.toList.isPrefixOf? cs).map h.2

/-- No head begins with another one, so a line has one head. -/
theorem headed?_append {h : String × (List Char → Piece)} (hm : h ∈ heads) (rest : List Char) :
    headed? (h.1.toList ++ rest) = some (h.2 rest) := by
  obtain ⟨front, back, he⟩ := List.append_of_mem hm
  have free := heads_prefixFree
  rw [he, List.pairwise_append] at free
  have others : front.findSome? (fun k =>
      (k.1.toList.isPrefixOf? (h.1.toList ++ rest)).map k.2) = none := by
    refine List.findSome?_eq_none_iff.mpr fun k hk => ?_
    obtain ⟨hkh, hhk⟩ := free.2.2 k hk h List.mem_cons_self
    rw [isPrefixOf?_eq_none, Option.map_none]
    intro hp
    exact (List.prefix_or_prefix_of_prefix hp (List.prefix_append _ _)).elim hkh hhk
  have this : h.1.toList.isPrefixOf? (h.1.toList ++ rest) = some rest :=
    List.isPrefixOf?_eq_some_iff_append_eq.mpr rfl
  rw [headed?, he, List.findSome?_append, others, Option.none_or, List.findSome?_cons, this]
  rfl

def Piece.ofText (cs : List Char) : Piece :=
  match headed? cs with
  | some p => p
  | none =>
    if cs = ":".toList then .placeholder
    else if cs = "else".toList then .elseHead
    else if cs = "fi".toList then .endIf
    else .raw (String.ofList cs)

namespace Piece

theorem ofText_of_head {p : Piece} {h : String × (List Char → Piece)} (hm : h ∈ heads)
    {rest : List Char} (ht : p.text.toList = h.1.toList ++ rest) (hp : h.2 rest = p) :
    ofText p.text.toList = p := by
  rw [ht, ofText, headed?_append hm]
  exact hp

theorem ofText_raw {text : String} (h : IsPlainLine text) : ofText text.toList = .raw text := by
  have line : ∀ s ∈ ["", ":", "else", "fi"], text.toList ≠ s.toList := by
    intro s hs he
    have hl := h.noLine
    rw [String.toList_injective he] at hl
    exact hl hs
  have unheaded : headed? text.toList = none := by
    refine List.findSome?_eq_none_iff.mpr fun k hk => ?_
    have short : ∃ s ∈ [" ", "if ", "elif ", "cibuild_fold "], s.toList <+: k.1.toList := by
      revert k
      decide
    obtain ⟨s, hs, hp⟩ := short
    rw [isPrefixOf?_eq_none fun hk => h.noHead s hs (hp.trans hk), Option.map_none]
  simp only [ofText, unheaded]
  rw [if_neg (line ":" (by simp)), if_neg (line "else" (by simp)), if_neg (line "fi" (by simp)),
    String.ofList_toList]

theorem ofText_text {p : Piece} (h : p.Legible) : ofText p.text.toList = p := by
  cases p with
  | raw text => exact ofText_raw h
  | foldStart label =>
    exact ofText_of_head (h := heads[2]) (List.getElem_mem _) String.toList_append
      (congrArg Piece.foldStart (unquoted_shellQuote label))
  | foldEnd label =>
    exact ofText_of_head (h := heads[3]) (List.getElem_mem _) String.toList_append
      (congrArg Piece.foldEnd (unquoted_shellQuote label))
  | ifHead test =>
    exact ofText_of_head (h := heads[0]) (List.getElem_mem _) (toList_test "if " test)
      (congrArg Piece.ifHead (tested_append test))
  | elifHead test =>
    exact ofText_of_head (h := heads[1]) (List.getElem_mem _) (toList_test "elif " test)
      (congrArg Piece.elifHead (tested_append test))
  | elseHead | placeholder | endIf => rfl
  | timeStart | preview | run | retry | timeFinish | assertResult | assign => cases h

theorem notMem_shellQuote {s : String} (h : '\n' ∉ s.toList) : '\n' ∉ (shellQuote s).toList := by
  rw [shellQuote, String.toList_ofList]
  unfold shellQuoteChars
  split
  · decide
  split
  · exact h
  · simp only [List.cons_append, List.mem_cons, List.mem_append, List.mem_flatMap, not_or,
      not_exists, not_and]
    refine ⟨by decide, fun c hc he => ?_, by decide⟩
    unfold shellEscape at he
    split at he
    · revert he
      decide
    · rw [List.mem_singleton.mp he] at h
      exact h hc

theorem Legible.oneLine {p : Piece} (h : p.Legible) : '\n' ∉ p.text.toList := by
  have append : ∀ {s t : String}, '\n' ∉ s.toList → '\n' ∉ t.toList → '\n' ∉ (s ++ t).toList := by
    intro s t hs ht
    rw [String.toList_append, List.mem_append, not_or]
    exact ⟨hs, ht⟩
  cases p with
  | raw text => exact IsPlainLine.oneLine h
  | foldStart label => exact append (by decide) (notMem_shellQuote h)
  | foldEnd label => exact append (by decide) (notMem_shellQuote h)
  | ifHead test => exact append (append (by decide) h) (by decide)
  | elifHead test => exact append (append (by decide) h) (by decide)
  | elseHead | placeholder | endIf => decide
  | timeStart | preview | run | retry | timeFinish | assertResult | assign => cases h

theorem Legible.exists_head {p : Piece} (h : p.Legible) :
    ∃ c rest, p.text.toList = c :: rest ∧ c ≠ ' ' := by
  cases p with
  | raw text =>
    cases ht : text.toList with
    | nil =>
      have he : text = "" := String.toList_injective ht
      exact absurd (he ▸ List.mem_cons_self) (IsPlainLine.noLine h)
    | cons c rest =>
      refine ⟨c, rest, ht, ?_⟩
      rintro rfl
      refine IsPlainLine.noHead h " " (by simp) ⟨rest, ?_⟩
      rw [ht]
      rfl
  | foldStart label => exact ⟨'c', _, String.toList_append, by decide⟩
  | foldEnd label => exact ⟨'c', _, String.toList_append, by decide⟩
  | ifHead test => exact ⟨'i', _, toList_test "if " test, by decide⟩
  | elifHead test => exact ⟨'e', _, toList_test "elif " test, by decide⟩
  | elseHead => exact ⟨'e', _, rfl, by decide⟩
  | placeholder => exact ⟨':', _, rfl, by decide⟩
  | endIf => exact ⟨'f', _, rfl, by decide⟩
  | timeStart | preview | run | retry | timeFinish | assertResult | assign => cases h

def ofLine (line : String) : Piece := ofText (line.toList.dropWhile (· = ' '))

end Piece

theorem notMem_indentation (level : Int) : '\n' ∉ (indentation level).toList := by
  rw [indentation, String.toList_ofList]
  intro h
  cases List.eq_of_mem_replicate h

namespace Placed

variable {p : Placed}

theorem text_of_legible (h : p.piece.Legible) : p.text = indentation p.level ++ p.piece.text := by
  obtain ⟨c, rest, ht, -⟩ := h.exists_head
  refine indented_of_toList ht ?_ p.level
  rintro rfl
  exact h.oneLine (ht ▸ List.mem_cons_self)

theorem oneLine_text (h : p.piece.Legible) : '\n' ∉ p.text.toList := by
  rw [text_of_legible h, String.toList_append, List.mem_append, not_or]
  exact ⟨notMem_indentation p.level, h.oneLine⟩

theorem ofLine_text (h : p.piece.Legible) : Piece.ofLine p.text = p.piece := by
  obtain ⟨c, rest, ht, hc⟩ := h.exists_head
  have blanks : ∀ b ∈ (indentation p.level).toList, decide (b = ' ') = true := by
    intro b hb
    rw [indentation, String.toList_ofList] at hb
    exact decide_eq_true (List.eq_of_mem_replicate hb)
  rw [Piece.ofLine, text_of_legible h, String.toList_append, List.dropWhile_append_of_pos blanks,
    ht, List.dropWhile_cons_of_neg (by simpa using hc), ← ht, Piece.ofText_text h]

end Placed

/-! ## Pieces tell scripts -/

theorem legible_headPiece (first : Bool) {test : Option String} (h : ∀ t ∈ test, '\n' ∉ t.toList) :
    (headPiece first test).Legible := by
  cases test with
  | none => trivial
  | some t => cases first <;> exact h t rfl

mutual

theorem Node.legible_pieces (level : Int) (n : Node) (h : n.Legible) :
    ∀ p ∈ n.pieces level, p.piece.Legible := by
  cases n with
  | command | assign => cases h
  | raw text => exact List.forall_mem_singleton.mpr h
  | fold label body =>
    refine List.forall_mem_cons.mpr ⟨h.1, List.forall_mem_append.mpr ⟨?_, ?_⟩⟩
    · exact legible_bodyPieces (level + 1) body h.2
    · exact List.forall_mem_singleton.mpr h.1
  | conditional arms =>
    refine List.forall_mem_append.mpr ⟨?_, List.forall_mem_singleton.mpr trivial⟩
    exact legible_branchPieces level true arms h.2

theorem legible_bodyPieces (level : Int) (ns : List Node) (h : Script.Legible ns) :
    ∀ p ∈ bodyPieces level ns, p.piece.Legible := by
  cases ns with
  | nil => exact List.forall_mem_nil _
  | cons n rest =>
    exact List.forall_mem_append.mpr
      ⟨n.legible_pieces level h.1, legible_bodyPieces level rest h.2⟩

theorem legible_branchPieces (level : Int) (first : Bool) (arms : List Branch)
    (h : Branch.AllLegible arms) : ∀ p ∈ branchPieces level first arms, p.piece.Legible := by
  match arms with
  | [] => exact List.forall_mem_nil _
  | ⟨test, body⟩ :: rest =>
    obtain ⟨ht, hb, hr⟩ := h
    have arm : ∀ p ∈ armPieces (level + 1) body, p.piece.Legible := by
      unfold armPieces
      split
      · exact List.forall_mem_singleton.mpr trivial
      · exact legible_bodyPieces (level + 1) body hb
    rw [branchPieces_cons]
    exact List.forall_mem_cons.mpr ⟨legible_headPiece first ht,
      List.forall_mem_append.mpr ⟨arm, legible_branchPieces level false rest hr⟩⟩

end

def strip (ps : List Placed) : List Piece := ps.map Placed.piece

theorem strip_cons (p : Placed) (ps : List Placed) : strip (p :: ps) = p.piece :: strip ps := rfl

theorem strip_append (ps qs : List Placed) : strip (ps ++ qs) = strip ps ++ strip qs :=
  List.map_append

/-- The pieces that a legible node begins with. -/
def Piece.begins : Piece → Bool
  | .raw _ | .foldStart _ | .ifHead _ => true
  | _ => false

/-- No node comes next. -/
def Ends (ps : List Piece) : Prop := ∀ p ∈ ps.head?, p.begins = false

theorem ends_nil : Ends [] := by
  rintro _ ⟨⟩

theorem ends_cons {p : Piece} (h : p.begins = false) (ps : List Piece) : Ends (p :: ps) := by
  rintro _ ⟨⟩
  exact h

theorem exists_strip_conditional {arms : List Branch} (h : Branch.Chain arms) (level : Int) :
    ∃ test rest, strip ((Node.conditional arms).pieces level) = .ifHead test :: rest := by
  obtain ⟨⟨⟨test, body⟩, rest, rfl, ht⟩, -⟩ := h
  obtain ⟨test, rfl⟩ := Option.ne_none_iff_exists'.mp ht
  rw [Node.pieces, branchPieces_cons]
  exact ⟨test, _, rfl⟩

theorem exists_strip_pieces {n : Node} (h : n.Legible) (level : Int) :
    ∃ p rest, strip (n.pieces level) = p :: rest ∧ p.begins = true := by
  cases n with
  | command | assign => cases h
  | raw text => exact ⟨_, _, rfl, rfl⟩
  | fold label body => exact ⟨_, _, rfl, rfl⟩
  | conditional arms =>
    obtain ⟨test, rest, he⟩ := exists_strip_conditional h.1 level
    exact ⟨_, rest, he, rfl⟩

theorem not_ends_pieces {n : Node} (h : n.Legible) (level : Int) (ps : List Piece) :
    ¬Ends (strip (n.pieces level) ++ ps) := by
  obtain ⟨p, rest, hp, hb⟩ := exists_strip_pieces h level
  intro he
  rw [hp] at he
  cases hb.symm.trans (he p rfl)

theorem ends_branchPieces (level : Int) (arms : List Branch) (ps : List Piece) :
    Ends (strip (branchPieces level false arms) ++ .endIf :: ps) := by
  cases arms with
  | nil => exact ends_cons rfl ps
  | cons arm rest =>
    obtain ⟨test, body⟩ := arm
    rw [branchPieces_cons]
    exact ends_cons (by cases test <;> rfl) _

theorem headPiece_injective (first : Bool) : Function.Injective (headPiece first) := by
  intro s t h
  cases s <;> cases t <;> cases first <;> cases h <;> rfl

theorem headPiece_ne_endIf (first : Bool) (test : Option String) : headPiece first test ≠ .endIf := by
  cases test <;> cases first <;> nofun

/-- An arm that is filled up is empty, since no node shows as the placeholder. -/
theorem bodies_of_arms {level level' : Int} {ns ms : List Node} (hn : Script.Legible ns)
    (hm : Script.Legible ms) {ps qs : List Piece}
    (h : strip (armPieces level ns) ++ ps = strip (armPieces level' ms) ++ qs) :
    strip (bodyPieces level ns) ++ ps = strip (bodyPieces level' ms) ++ qs := by
  have filled : ∀ {n : Node} {ns : List Node} {level : Int} {ps qs : List Piece},
      Script.Legible (n :: ns) → strip (armPieces level (n :: ns)) ++ ps ≠ .placeholder :: qs := by
    intro n ns level ps qs hn he
    refine not_ends_pieces hn.1 level (strip (bodyPieces level ns) ++ ps) ?_
    rw [armPieces, if_neg (List.cons_ne_nil n ns), bodyPieces, strip_append, List.append_assoc] at he
    rw [he]
    exact ends_cons rfl qs
  cases ns with
  | nil =>
    cases ms with
    | nil => exact (List.cons.inj h).2
    | cons m ms => exact absurd h.symm (filled hm)
  | cons n ns =>
    cases ms with
    | nil => exact absurd h (filled hn)
    | cons m ms => exact h

mutual

/-- The pieces of a legible node tell the node and where it ends. -/
theorem pieces_append_inj (level level' : Int) (n m : Node) (hn : n.Legible) (hm : m.Legible)
    {ps qs : List Piece} (h : strip (n.pieces level) ++ ps = strip (m.pieces level') ++ qs) :
    n = m ∧ ps = qs := by
  cases n <;> cases m
  case raw.raw text text' =>
    obtain ⟨ht, hr⟩ := List.cons.inj h
    cases ht
    exact ⟨rfl, hr⟩
  case fold.fold label ns label' ms =>
    rw [Node.pieces, Node.pieces, strip_cons, strip_cons, strip_append, strip_append,
      List.cons_append, List.cons_append, List.append_assoc, List.append_assoc] at h
    obtain ⟨hl, hr⟩ := List.cons.inj h
    cases hl
    obtain ⟨rfl, ht⟩ := bodyPieces_append_inj (level + 1) (level' + 1) ns ms hn.2 hm.2
      (ends_cons rfl _) (ends_cons rfl _) hr
    exact ⟨rfl, (List.cons.inj ht).2⟩
  case conditional.conditional bs cs =>
    simp only [Node.pieces, strip_append, List.append_assoc] at h
    obtain ⟨rfl, ht⟩ := branchPieces_append_inj level level' true bs cs hn.2 hm.2 h
    exact ⟨rfl, ht⟩
  case raw.fold | fold.raw => cases (List.cons.inj h).1
  case raw.conditional | fold.conditional =>
    obtain ⟨test, rest, he⟩ := exists_strip_conditional hm.1 level'
    rw [he] at h
    cases (List.cons.inj h).1
  case conditional.raw | conditional.fold =>
    obtain ⟨test, rest, he⟩ := exists_strip_conditional hn.1 level
    rw [he] at h
    cases (List.cons.inj h).1
  all_goals first | exact hn.elim | exact hm.elim

/-- What follows the body does not begin with a node, so the body ends where the nodes do. -/
theorem bodyPieces_append_inj (level level' : Int) (ns ms : List Node) (hn : Script.Legible ns)
    (hm : Script.Legible ms) {ps qs : List Piece} (hp : Ends ps) (hq : Ends qs)
    (h : strip (bodyPieces level ns) ++ ps = strip (bodyPieces level' ms) ++ qs) :
    ns = ms ∧ ps = qs := by
  match ns, ms with
  | [], [] => exact ⟨rfl, h⟩
  | [], m :: ms =>
    rw [bodyPieces, bodyPieces, strip_append, List.append_assoc] at h
    obtain rfl : ps = _ := h
    exact absurd hp (not_ends_pieces hm.1 level' _)
  | n :: ns, [] =>
    rw [bodyPieces, bodyPieces, strip_append, List.append_assoc] at h
    obtain rfl : _ = qs := h
    exact absurd hq (not_ends_pieces hn.1 level _)
  | n :: ns, m :: ms =>
    rw [bodyPieces, bodyPieces, strip_append, strip_append, List.append_assoc,
      List.append_assoc] at h
    obtain ⟨rfl, hr⟩ := pieces_append_inj level level' n m hn.1 hm.1 h
    obtain ⟨rfl, ht⟩ := bodyPieces_append_inj level level' ns ms hn.2 hm.2 hp hq hr
    exact ⟨rfl, ht⟩

theorem branchPieces_append_inj (level level' : Int) (first : Bool) (bs cs : List Branch)
    (hb : Branch.AllLegible bs) (hc : Branch.AllLegible cs) {ps qs : List Piece}
    (h : strip (branchPieces level first bs) ++ .endIf :: ps =
      strip (branchPieces level' first cs) ++ .endIf :: qs) : bs = cs ∧ ps = qs := by
  match bs, cs with
  | [], [] => exact ⟨rfl, (List.cons.inj h).2⟩
  | [], ⟨test, body⟩ :: cs =>
    rw [branchPieces_cons] at h
    exact absurd (List.cons.inj h).1.symm (headPiece_ne_endIf first test)
  | ⟨test, body⟩ :: bs, [] =>
    rw [branchPieces_cons] at h
    exact absurd (List.cons.inj h).1 (headPiece_ne_endIf first test)
  | ⟨test, ns⟩ :: bs, ⟨test', ms⟩ :: cs =>
    rw [branchPieces_cons, branchPieces_cons, strip_cons, strip_cons, strip_append, strip_append,
      List.cons_append, List.cons_append, List.append_assoc, List.append_assoc] at h
    obtain ⟨ht, ha⟩ := List.cons.inj h
    obtain rfl := headPiece_injective first ht
    obtain ⟨rfl, hr⟩ := bodyPieces_append_inj (level + 1) (level' + 1) ns ms hb.2.1 hc.2.1
      (ends_branchPieces level bs ps) (ends_branchPieces level' cs qs)
      (bodies_of_arms hb.2.1 hc.2.1 ha)
    obtain ⟨rfl, hs⟩ := branchPieces_append_inj level level' false bs cs hb.2.2 hc.2.2 hr
    exact ⟨rfl, hs⟩

end

namespace Script

variable {s t : Script}

theorem ofLine_lines_render (h : Script.Legible s) (hn : s ≠ []) (level : Int) :
    (lines (s.render level)).map Piece.ofLine = strip (bodyPieces level s) := by
  have legible := legible_bodyPieces level s h
  have filled : statements level s ≠ [] := mt List.map_eq_nil_iff.mp (bodyPieces_ne_nil hn level)
  have single : ∀ line ∈ statements level s, '\n' ∉ line.toList :=
    List.forall_mem_map.mpr fun p hp => Placed.oneLine_text (legible p hp)
  rw [render_eq, lines_joinLines filled single, statements, List.map_map, strip]
  refine List.map_congr_left fun p hp => ?_
  rw [Function.comp_apply, Placed.ofLine_text (legible p hp)]

/-- The empty text shows an empty line, which no legible piece has. -/
theorem render_ne_empty (h : Script.Legible s) (hn : s ≠ []) (level : Int) : s.render level ≠ "" := by
  intro he
  have shown : strip (bodyPieces level s) = [.raw ""] := by
    rw [← ofLine_lines_render h hn level, he]
    rfl
  obtain ⟨p, hp, hr⟩ := List.mem_map.mp (shown ▸ List.mem_singleton_self (Piece.raw ""))
  have plain : IsPlainLine "" := by
    have hl := legible_bodyPieces level s h p hp
    rwa [hr] at hl
  exact plain.noLine List.mem_cons_self

/-- The text tells the script, and the level need not be known. -/
theorem eq_of_render_eq (hs : Script.Legible s) (ht : Script.Legible t) {level level' : Int}
    (h : s.render level = t.render level') : s = t := by
  -- an empty script has no lines to read, and a text that no other script has
  by_cases hn : s = []
  · subst hn
    by_contra hm
    exact render_ne_empty ht (Ne.symm hm) level' h.symm
  by_cases hm : t = []
  · subst hm
    exact absurd h (render_ne_empty hs hn level)
  have pieces : strip (bodyPieces level s) ++ [] = strip (bodyPieces level' t) ++ [] := by
    rw [← ofLine_lines_render hs hn level, ← ofLine_lines_render ht hm level', h]
  exact (bodyPieces_append_inj level level' s t hs ht ends_nil ends_nil pieces).1

/-- No two legible scripts have one text. -/
theorem render_eq_iff_of_legible (hs : Script.Legible s) (ht : Script.Legible t) (level : Int) :
    s.render level = t.render level ↔ s = t :=
  ⟨eq_of_render_eq hs ht, fun h => h ▸ rfl⟩

def checked (inside after : List Node) : Script :=
  .fold "unit tests" (.conditional [⟨some "[ -f Makefile ]", [.raw "make"]⟩, ⟨none, []⟩] :: inside)
    :: after

theorem legible_checked {inside after : List Node} (hi : Script.Legible inside)
    (ha : Script.Legible after) : Script.Legible (checked inside after) := by
  have make : IsPlainLine "make" := ⟨by decide, by decide, by decide⟩
  have chain : Branch.Chain [⟨some "[ -f Makefile ]", [.raw "make"]⟩, ⟨none, []⟩] := by
    refine ⟨⟨_, _, rfl, Option.some_ne_none _⟩, ?_⟩
    exact List.forall_mem_singleton.mpr (Option.some_ne_none _)
  have arms : Branch.AllLegible [⟨some "[ -f Makefile ]", [.raw "make"]⟩, ⟨none, []⟩] :=
    ⟨by decide, ⟨make, trivial⟩, nofun, trivial, trivial⟩
  exact ⟨⟨by decide, ⟨chain, arms⟩, hi⟩, ha⟩

theorem render_ne_of_moved_line :
    render (checked [.raw "date"] []) 0 ≠ render (checked [] [.raw "date"]) 0 := by
  have date : Script.Legible [.raw "date"] := ⟨⟨by decide, by decide, by decide⟩, trivial⟩
  have empty : Script.Legible [] := trivial
  have inside := legible_checked date empty
  have after := legible_checked empty date
  exact mt (render_eq_iff_of_legible inside after 0).mp nofun

end Script

end BuildScript.Shell

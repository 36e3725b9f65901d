import BuildScript.Proofs.Text.Words

/-! # Words without quotes

Which texts are read as themselves although nothing in them is quoted. A character adds at most one
character that may stand for itself to the words, so that a text which comes back in full has lost none
on the way: each of its characters stands for itself.
-/

namespace BuildScript.Text

def Glyph.isLiteral : Glyph → Bool
  | .literal _ => true
  | .active _ => false

/-- A glyph stands for itself, or may do so once its word has ended. -/
def Glyph.mayStand : Glyph → Bool
  | .literal _ => true
  | .active c => isOpen c

theorem mayStand_of_settled {g : Glyph} {rest : Word} (h : (settled g rest).isLiteral = true) :
    g.mayStand = true := by
  fun_cases settled g rest with
  | case1 => rfl
  | case2 c hc =>
    obtain ⟨rfl, -⟩ | ⟨rfl, -⟩ | rfl | rfl := hc <;> decide
  | case3 c hc =>
    rw [settled, if_neg hc] at h
    cases h

theorem countP_settle_le (w : Word) :
    (settle w).countP Glyph.isLiteral ≤ w.countP Glyph.mayStand := by
  induction w with
  | nil => exact Nat.le_refl 0
  | cons g rest ih =>
    rw [settle, List.countP_cons, List.countP_cons]
    refine Nat.add_le_add ih ?_
    by_cases h : (settled g rest).isLiteral = true
    · simp [h, mayStand_of_settled h]
    · simp [h]

theorem countP_flatten_settle_le (ws : List Word) :
    (ws.map settle).flatten.countP Glyph.isLiteral ≤ ws.flatten.countP Glyph.mayStand := by
  induction ws with
  | nil => exact Nat.le_refl 0
  | cons w ws ih =>
    simp only [List.map_cons, List.flatten_cons, List.countP_append]
    exact Nat.add_le_add (countP_settle_le w) ih

theorem countP_literals (cs : List Char) :
    (cs.map Glyph.literal).countP Glyph.isLiteral = cs.length := by
  simp [List.countP_map, Function.comp_def, Glyph.isLiteral]

@[simp] theorem countP_plain (s : String) : (plain s).countP Glyph.isLiteral = s.toList.length :=
  countP_literals s.toList

/-- What begins a word that is settled to literal characters begins with these characters, and each
may stand for itself. -/
theorem of_settle_eq_literals {u w : Word} {cs : List Char} (hu : u <+: w)
    (h : settle w = cs.map .literal) :
    u.map Glyph.char <+: cs ∧ u.countP Glyph.mayStand = u.length := by
  have chars : w.map Glyph.char = cs := by
    rw [← map_char_settle, h, List.map_map]
    exact List.map_id cs
  have stand : w.countP Glyph.mayStand = w.length := by
    refine Nat.le_antisymm List.countP_le_length ?_
    rw [← List.length_map Glyph.char, chars, ← countP_literals, ← h]
    exact countP_settle_le w
  refine ⟨chars ▸ hu.map Glyph.char, List.countP_eq_length.mpr fun g hg => ?_⟩
  exact List.countP_eq_length.mp stand g (hu.subset hg)

/-! ## A character at the end -/

theorem closes_append (w : Word) (c : Char) : closes (w ++ [.literal c]) = closes w := by
  induction w with
  | nil => simp [closes]
  | cons g rest ih => rw [List.cons_append, closes, closes, ih]

theorem opensPattern_append (w : Word) (c : Char) :
    opensPattern (w ++ [.literal c]) = opensPattern w := by
  cases w with
  | nil => simp [opensPattern, closes]
  | cons g rest =>
    by_cases hg : g = .active '!'
    · subst hg
      cases rest with
      | nil => simp [opensPattern, closes]
      | cons g rest => exact congrArg (g.char != '/' && ·) (closes_append rest c)
    · simp [opensPattern, hg, closes_append]

theorem settle_append_literal {c : Char} (hc : expands [.literal c] = false) (w : Word) :
    settle (w ++ [.literal c]) = settle w ++ [.literal c] := by
  induction w with
  | nil => rfl
  | cons g rest ih =>
    have expanded : expands (rest ++ [.literal c]) = expands rest := by
      cases rest with
      | nil => exact hc
      | cons _ _ => rfl
    have hg : settled g (rest ++ [.literal c]) = settled g rest := by
      unfold settled
      rw [expanded, opensPattern_append]
    rw [List.cons_append, settle, settle, ih, hg, List.cons_append]

/-- A text that is the rest of a word as it stands: nothing in it begins an expansion or a pattern. -/
structure IsWordRest (s : String) : Prop where
  ordinary : s.toList.all isOrdinary = true
  inert : settle (s.toList.map glyph) = plain s

theorem isWordRest_iff {s : String} : IsWordRest s ↔
    s.toList.all isOrdinary = true ∧ settle (s.toList.map glyph) = plain s :=
  ⟨fun ⟨ho, hi⟩ => ⟨ho, hi⟩, fun ⟨ho, hi⟩ => ⟨ho, hi⟩⟩

instance (s : String) : Decidable (IsWordRest s) := decidable_of_iff' _ isWordRest_iff

/-- A text that is one word as it stands. A number sign would begin a comment, and a tilde stand for
a home. -/
structure IsBareWord (s : String) : Prop where
  ne_empty : s ≠ ""
  rest : IsWordRest s
  comment : s.toList.head? ≠ some '#'
  home : s.toList.head? ≠ some '~'

theorem isBareWord_iff {s : String} : IsBareWord s ↔
    s ≠ "" ∧ IsWordRest s ∧ s.toList.head? ≠ some '#' ∧ s.toList.head? ≠ some '~' :=
  ⟨fun ⟨hn, hr, hc, ht⟩ => ⟨hn, hr, hc, ht⟩, fun ⟨hn, hr, hc, ht⟩ => ⟨hn, hr, hc, ht⟩⟩

instance (s : String) : Decidable (IsBareWord s) := decidable_of_iff' _ isBareWord_iff

theorem IsBareWord.reads {s : String} (h : IsBareWord s) : Reads s [plain s] := by
  have spells := spells_of_ordinary h.ne_empty h.rest.ordinary h.comment h.home
  exact h.rest.inert ▸ spells.reads

namespace Reader

variable {r : Reader} {c : Char} {cs : List Char}

def count (r : Reader) : Nat := r.ended.flatten.countP Glyph.mayStand

/-- The count, with a backslash that may still come to stand for itself. -/
def literals (r : Reader) : Nat := r.count + if r.quoting = .doubleEscaped then 1 else 0

@[simp] theorem count_put (r : Reader) (q : Quoting) (w : Word) :
    (r.put q w).count = r.count + w.countP Glyph.mayStand := by
  obtain ⟨_, words, word⟩ := r
  cases word <;> simp [count, put, ended, Nat.add_assoc]

@[simp] theorem count_endCommand (r : Reader) : r.endCommand.count = r.count := by
  have newline : (Glyph.active '\n').mayStand = false := by decide
  simp [count, endCommand, ended, newline]

@[simp] theorem count_blank (r : Reader) : count ⟨.bare, r.ended, none⟩ = r.count := by
  simp [count, ended]

@[simp] theorem count_quoting (r : Reader) (q : Quoting) :
    count { r with quoting := q } = r.count := rfl

@[simp] theorem quoting_put (r : Reader) (q : Quoting) (w : Word) : (r.put q w).quoting = q := rfl

@[simp] theorem quoting_endCommand (r : Reader) : r.endCommand.quoting = .bare := rfl

theorem not_isOpen_of_isActive (h : isActive c = true) : isOpen c = false := by
  have disjoint : (activeChars.all fun d => !isOpen d) = true := by decide
  have shut := List.all_eq_true.mp disjoint c (List.contains_iff_mem.mp h)
  exact (Bool.not_eq_true' _).mp shut

theorem literals_step_of_not (hr : r.quoting = .bare)
    (h : ¬(isOrdinary c = true ∧ (c = '#' ∨ c = '~' → r.word ≠ none))) :
    (r.step c).literals = r.literals := by
  rw [isOrdinary_iff] at h
  fun_cases step r c
  case case6 hc => simp [literals, count, ended, hr, hc.2]
  case case7 _ hb hn hs hd he hm =>
    have acted : r.acts c = true ∧ isOpen c = false := by
      by_cases ha : isActive c = true
      · exact ⟨by simp [acts, ha], not_isOpen_of_isActive ha⟩
      · have home : c = '~' ∧ r.word = none := by
          obtain ⟨hsp, ht⟩ := not_or.mp hb
          refine Decidable.byContradiction fun home =>
            h ⟨⟨Bool.eq_false_iff.mpr ha, hsp, ht, hn, hs, hd, he⟩, ?_⟩
          rintro (hc | hc) hw
          · exact hm ⟨hc, hw⟩
          · exact home ⟨hc, hw⟩
        obtain ⟨rfl, hw⟩ := home
        exact ⟨by simp [acts, hw], by decide⟩
    simp [literals, acted.1, acted.2, Glyph.mayStand, hr]
  all_goals simp_all [literals]

theorem literals_step_le (r : Reader) (c : Char) : (r.step c).literals ≤ r.literals + 1 := by
  fun_cases step r c
  case case6 hc => simp [literals, count, ended, *]
  case case7 | case14 =>
    simp only [literals, count_put, List.countP_singleton]
    split <;> split <;> simp_all
  all_goals simp [literals, Glyph.mayStand, List.countP_cons, *]
  omega

theorem literals_foldl_le (r : Reader) (cs : List Char) :
    (cs.foldl step r).literals ≤ r.literals + cs.length := by
  induction cs generalizing r with
  | nil => exact Nat.le_refl _
  | cons c cs ih =>
    have hs := ih (r.step c)
    have hc := literals_step_le r c
    rw [List.foldl_cons, List.length_cons]
    omega

theorem ordinary_of_literals (cs : List Char) (hr : r.quoting = .bare)
    (h : r.literals + cs.length ≤ (cs.foldl step r).literals) :
    cs.all isOrdinary = true ∧
      (r.word = none → cs.head? ≠ some '#' ∧ cs.head? ≠ some '~') := by
  induction cs generalizing r with
  | nil => exact ⟨rfl, fun _ => ⟨nofun, nofun⟩⟩
  | cons c cs ih =>
    have hl := literals_foldl_le (r.step c) cs
    rw [List.foldl_cons, List.length_cons] at h
    by_cases hc : isOrdinary c = true ∧ (c = '#' ∨ c = '~' → r.word ≠ none)
    · have hs := step_ordinary hr hc.1 hc.2
      have hn : (r.step c).literals ≤ r.literals + 1 := literals_step_le r c
      rw [hs] at h hn
      obtain ⟨ho, -⟩ := ih (r := r.put .bare [glyph c]) rfl (by omega)
      refine ⟨by rw [List.all_cons, hc.1, ho, Bool.and_self], fun hw => ⟨fun he => ?_, fun he => ?_⟩⟩
      · exact hc.2 (.inl (Option.some.inj he)) hw
      · exact hc.2 (.inr (Option.some.inj he)) hw
    · have hs := literals_step_of_not hr hc
      omega

/-- Once quotes or a comment have begun, a text that leaves them adds fewer literal characters than
it has. -/
theorem literals_foldl_lt (cs : List Char) (hb : r.quoting ≠ .bare) (he : r.quoting ≠ .escaped)
    (h : (cs.foldl step r).quoting = .bare) :
    (cs.foldl step r).literals < r.literals + cs.length := by
  induction cs generalizing r with
  | nil => exact absurd h hb
  | cons c cs ih =>
    have hs : (r.step c).quoting ≠ .bare ∧ (r.step c).quoting ≠ .escaped ∨
        (r.step c).literals ≤ r.literals := by
      fun_cases step r c <;> simp_all [literals]
    rw [List.foldl_cons, List.length_cons] at *
    rcases hs with ⟨hb, he⟩ | hs
    · have hl := ih hb he h
      have hc := literals_step_le r c
      omega
    · have hl := literals_foldl_le (r.step c) cs
      omega

def first (r : Reader) : Word := r.ended.headD []

theorem settle_first (r : Reader) : settle r.first = (r.ended.map settle).headD [] := by
  unfold first
  cases r.ended <;> rfl

theorem first_step (r : Reader) (c : Char) : r.first <+: (r.step c).first := by
  obtain ⟨q, words, word⟩ := r
  cases words with
  | nil =>
    fun_cases step ⟨q, [], word⟩ c <;> cases word <;> simp_all [first, ended, put, endCommand]
  | cons w ws =>
    fun_cases step ⟨q, w :: ws, word⟩ c <;> cases word <;>
      simp_all [first, ended, put, endCommand]

theorem first_foldl (r : Reader) (cs : List Char) : r.first <+: (cs.foldl step r).first := by
  induction cs generalizing r with
  | nil => exact List.prefix_rfl
  | cons c cs ih => exact (first_step r c).trans (ih _)

theorem first_foldl_of_words {w : Word} {ws : List Word} (h : r.words = w :: ws) (cs : List Char) :
    (cs.foldl step r).first = w := by
  have hr : r = Reader.after (w :: ws) { r with words := [] } := by
    simp [after, ← h]
  have ha := read_after (w :: ws) { r with words := [] } (String.ofList cs)
  rw [read, String.toList_ofList, ← hr] at ha
  rw [ha, first, ended_after]
  rfl

theorem comment_foldl (cs : List Char) (h : r.quoting = .comment → r.word = none) :
    (cs.foldl step r).quoting = .comment → (cs.foldl step r).word = none := by
  induction cs generalizing r with
  | nil => exact h
  | cons c cs ih => exact ih (by fun_cases step r c <;> simp_all)

theorem count_first_le (r : Reader) : r.first.countP Glyph.mayStand ≤ r.literals := by
  have hc : r.first.countP Glyph.mayStand ≤ r.count := by
    unfold first count
    cases r.ended with
    | nil => exact Nat.zero_le _
    | cons w ws => simp
  exact Nat.le_trans hc (Nat.le_add_right _ _)

theorem step_space {v : Word} (hs : r.words = []) (hw : r.word = some v)
    (hc : r.quoting ≠ .comment) : (r.step ' ').words = [v] ∨
      ∃ y, (r.step ' ').first = v ++ y ++ [.literal ' '] ∧
        r.literals = (v ++ y).countP Glyph.mayStand := by
  obtain ⟨q, words, word⟩ := r
  cases hs
  cases hw
  cases q with
  | bare => exact .inl rfl
  | escaped | single | double =>
    refine .inr ⟨[], ?_, ?_⟩ <;> simp [step, first, ended, put, literals, count]
  | doubleEscaped =>
    refine .inr ⟨[.literal '\\'], ?_, ?_⟩ <;>
      simp [step, first, ended, put, literals, count, Glyph.mayStand]
  | comment => exact absurd rfl hc

theorem length_le_of_space {lead p q : List Char} {u : Word} (hp : ' ' ∉ p)
    (h : (lead.map Glyph.literal ++ u).map Glyph.char ++ [' '] <+: lead ++ (p ++ q)) :
    p.length ≤ u.length := by
  have hl : (lead.map Glyph.literal).map Glyph.char = lead := by
    rw [List.map_map]
    exact List.map_id lead
  rw [List.map_append, hl, List.append_assoc, List.prefix_append_right_inj] at h
  obtain ⟨z, hz⟩ := h
  rw [List.append_assoc] at hz
  rcases List.append_eq_append_iff.mp hz with ⟨a, ha, hb⟩ | ⟨a, ha, -⟩
  · cases a with
    | nil => exact Nat.le_of_eq (by rw [ha, List.append_nil, List.length_map])
    | cons c a =>
      have hc : ' ' = c := (List.cons.inj hb).1
      exact absurd (by simp [ha, ← hc]) hp
  · rw [← List.length_map Glyph.char, ha, List.length_append]
    exact Nat.le_add_right _ _

/-- A loss before the first blank could only be made good after it. But then the first word ends at
the blank, and is too short, or the blank is quoted, and is too early in it. -/
theorem settle_first_ne_of_lost {lead p q rest : List Char} (hn : lead ≠ []) (hp : ' ' ∉ p)
    (lost : (p.foldl step ⟨.bare, [], some (lead.map .literal)⟩).literals <
      lead.length + p.length) :
    settle ((p ++ ' ' :: rest).foldl step ⟨.bare, [], some (lead.map .literal)⟩).first ≠
      (lead ++ (p ++ q)).map .literal := by
  have begun : lead.map .literal <+: (p.foldl step ⟨.bare, [], some (lead.map .literal)⟩).first :=
    first_foldl ⟨.bare, [], some (lead.map .literal)⟩ p
  have hc := comment_foldl (r := ⟨.bare, [], some (lead.map .literal)⟩) p fun hk => by cases hk
  rw [List.foldl_append, List.foldl_cons]
  generalize p.foldl step ⟨.bare, [], some (lead.map .literal)⟩ = r at *
  intro h
  have short : settle r.first ≠ (lead ++ (p ++ q)).map .literal := by
    intro he
    have hle := count_first_le r
    have hlen := congrArg List.length he
    rw [length_settle, List.length_map, List.length_append, List.length_append] at hlen
    rw [(of_settle_eq_literals List.prefix_rfl he).2] at hle
    omega
  cases hv : r.words with
  | cons v vs =>
    have hf : r.first = v := first_foldl_of_words hv []
    have hl : ((' ' :: rest).foldl step r).first = v := first_foldl_of_words hv _
    exact short (hf.trans hl.symm ▸ h)
  | nil =>
    cases hw : r.word with
    | none =>
      rw [first, ended, hv, hw] at begun
      exact hn (List.map_eq_nil_iff.mp (List.prefix_nil.mp begun))
    | some v =>
      have hf : r.first = v := by
        rw [first, ended, hv, hw]
        rfl
      have hk : r.quoting ≠ .comment := by
        intro hk
        cases hw.symm.trans (hc hk)
      rcases step_space hv hw hk with hb | ⟨y, hy, hlit⟩
      · rw [first_foldl_of_words hb, ← hf] at h
        exact short h
      · obtain ⟨x, hx⟩ := begun
        obtain rfl : v = lead.map .literal ++ x := hf.symm.trans hx.symm
        -- the word goes on after the blank, and all that it begins with may stand for itself
        have hpre := hy ▸ first_foldl (r.step ' ') rest
        obtain ⟨chars, stand⟩ := of_settle_eq_literals hpre h
        rw [List.map_append, List.append_assoc] at chars
        have hlen := length_le_of_space hp chars
        rw [List.countP_append, ← hlit] at stand
        simp [Glyph.mayStand] at stand hlen
        omega

theorem rest_of_first {t rest lead : List Char} (hn : lead ≠ [])
    (h : settle ((t ++ ' ' :: rest).foldl step ⟨.bare, [], some (lead.map .literal)⟩).first =
      (lead ++ t).map .literal) :
    t.all isOrdinary = true ∧ settle (t.map glyph) = t.map .literal := by
  obtain ⟨p, q, rfl, hp, hpq⟩ : ∃ p q, t = p ++ q ∧ ' ' ∉ p ∧ (q = [] ∨ ∃ q', q = ' ' :: q') := by
    by_cases ht : ' ' ∈ t
    · obtain ⟨p, q, rfl, hp⟩ := List.eq_append_cons_of_mem ht
      exact ⟨p, ' ' :: q, rfl, hp, .inr ⟨q, rfl⟩⟩
    · exact ⟨t, [], (List.append_nil t).symm, ht, .inl rfl⟩
  obtain ⟨rest', hr⟩ : ∃ rest', p ++ q ++ ' ' :: rest = p ++ ' ' :: rest' := by
    rcases hpq with rfl | ⟨q', rfl⟩ <;> simp
  rw [hr] at h
  have ho : p.all isOrdinary = true := by
    refine Decidable.byContradiction fun ho => ?_
    have hl : (⟨.bare, [], some (lead.map .literal)⟩ : Reader).literals = lead.length := by
      simp [literals, count, ended, List.countP_map, Function.comp_def, Glyph.mayStand]
    refine settle_first_ne_of_lost hn hp (Nat.lt_of_not_le fun hle => ?_) h
    exact ho (ordinary_of_literals p rfl (hl ▸ hle)).1
  have hw : p.foldl step ⟨.bare, [], some (lead.map .literal)⟩ =
      ⟨.bare, [], some (lead.map .literal ++ p.map glyph)⟩ := foldl_ordinary ho {} _
  rw [List.foldl_append, List.foldl_cons, hw, first_foldl_of_words rfl rest',
    settle_literals_append] at h
  have hq : q = [] := by
    have hlen := congrArg List.length h
    simp at hlen
    exact hlen
  subst hq
  rw [List.append_nil, List.map_append, List.append_cancel_left_eq] at h
  rw [List.append_nil]
  exact ⟨ho, h⟩

end Reader

theorem Reads.ordinary {s : String} {ws : List Word} (h : Reads s ws)
    (hc : ws.flatten.countP Glyph.isLiteral = s.toList.length) :
    s.toList.all isOrdinary = true ∧ s.toList.head? ≠ some '#' ∧ s.toList.head? ≠ some '~' := by
  have hl : s.toList.length ≤ (Reader.read {} s).literals := by
    rw [← hc, ← h.2]
    exact Nat.le_trans (countP_flatten_settle_le _) (Nat.le_add_right _ _)
  obtain ⟨ho, hh⟩ := Reader.ordinary_of_literals (r := {}) s.toList rfl
    (Nat.le_trans (Nat.le_of_eq (Nat.zero_add _)) hl)
  exact ⟨ho, hh rfl⟩

theorem reads_plain_iff (s : String) : Reads s [plain s] ↔ IsBareWord s := by
  constructor
  · intro h
    obtain ⟨ho, hc, ht⟩ := h.ordinary (by simp)
    have hn : s ≠ "" := by
      rintro rfl
      cases h.2
    have hw := (spells_of_ordinary hn ho hc ht).reads.2.symm.trans h.2
    exact ⟨hn, ⟨ho, (List.cons.inj hw).1⟩, hc, ht⟩
  · exact IsBareWord.reads

example : IsBareWord "HEAD@\x7b1\x7d~2" ∧ IsBareWord "v1.0^\x7bcommit\x7d" ∧ IsBareWord "a!b$" ∧
    ¬IsBareWord "~u/app" ∧ ¬IsBareWord "v[12]" ∧ ¬IsBareWord "$HOME" := by decide

/-- A text between the beginning of a word and a blank is read as the rest of this word just if it
is one as it stands. -/
theorem reads_rest_iff {head lead : String} {done : List Word} (hn : lead ≠ "")
    (hd : done.map settle = done)
    (hh : Reader.read {} head = ⟨.bare, done, some (plain lead)⟩) (t rest : String)
    (ws : List Word) :
    Reads (head ++ t ++ " " ++ rest) (done ++ [plain (lead ++ t)] ++ ws) ↔
      IsWordRest t ∧ Reads rest ws := by
  have front (ht : IsWordRest t) : Reads (head ++ t) (done ++ [plain (lead ++ t)]) := by
    have hw : Reader.read {} (head ++ t) =
        ⟨.bare, done, some (plain lead ++ t.toList.map glyph)⟩ := by
      rw [Reader.read_append, hh]
      exact Reader.foldl_ordinary ht.ordinary ⟨.bare, done, none⟩ (plain lead)
    have last : settle (plain lead ++ t.toList.map glyph) = plain (lead ++ t) := by
      rw [plain_append, ← ht.inert]
      exact settle_literals_append _ _
    rw [Reads, hw, Reader.ended, List.map_append, hd]
    exact ⟨rfl, congrArg (done ++ [·]) last⟩
  constructor
  · intro h
    have ht : IsWordRest t := by
      have he := h.2
      have ha : (⟨.bare, done, some (plain lead)⟩ : Reader) =
          Reader.after done ⟨.bare, [], some (plain lead)⟩ := by
        simp [Reader.after]
      rw [String.append_assoc, String.append_assoc, Reader.read_append, hh, ha, Reader.read_after,
        Reader.ended_after, List.map_append, hd, List.append_assoc,
        List.append_cancel_left_eq] at he
      have hl : t.toList ++ ' ' :: rest.toList = (t ++ (" " ++ rest)).toList := by simp
      have hf : settle ((t.toList ++ ' ' :: rest.toList).foldl Reader.step
          ⟨.bare, [], some (plain lead)⟩).first = plain (lead ++ t) := by
        rw [hl, Reader.settle_first]
        exact congrArg (List.headD · []) he
      rw [plain, plain, String.toList_append] at hf
      have hne : lead.toList ≠ [] := fun he => hn (String.toList_injective he)
      obtain ⟨ho, hi⟩ := Reader.rest_of_first hne hf
      exact ⟨ho, hi⟩
    exact ⟨ht, (front ht).blank_iff.mp h⟩
  · rintro ⟨ht, hr⟩
    exact (front ht).blank_iff.mpr hr

theorem not_reads_empty_pair (t : String) : ¬Reads t [plain "", plain t] := by
  intro h
  obtain ⟨ho, hc, ht⟩ := h.ordinary (by simp)
  by_cases hn : t = ""
  · subst hn
    cases h.2
  · have hw := (spells_of_ordinary hn ho hc ht).reads.2.symm.trans h.2
    exact absurd (congrArg List.length hw) (by simp)

/-- Of two texts that come back as two words the first has lost nothing. Otherwise the blank would
have been put to a word, and the second text would be too short to be all of this word. -/
theorem Reads.length_le_literals {s t : String} (h : Reads (s ++ " " ++ t) [plain s, plain t]) :
    s.toList.length ≤ (Reader.read {} s).literals := by
  refine Decidable.byContradiction fun hs => ?_
  have hr : Reader.read {} (s ++ " " ++ t) =
      t.toList.foldl Reader.step ((Reader.read {} s).step ' ') := by
    rw [Reader.read_append, Reader.read_append]
    rfl
  obtain ⟨hq, he⟩ := h
  have total : s.toList.length + t.toList.length ≤ (Reader.read {} (s ++ " " ++ t)).literals := by
    have hc := countP_flatten_settle_le (Reader.read {} (s ++ " " ++ t)).ended
    rw [he, List.flatten_cons, List.flatten_singleton, List.countP_append, countP_plain,
      countP_plain] at hc
    exact Nat.le_trans hc (Nat.le_add_right _ _)
  rw [hr] at total hq he
  have hc := Reader.literals_step_le (Reader.read {} s) ' '
  have hl := Reader.literals_foldl_le ((Reader.read {} s).step ' ') t.toList
  cases hk : (Reader.read {} s).quoting with
  | bare =>
    have hn := Reader.literals_step_of_not (c := ' ') hk fun hn => absurd hn.1 (by decide)
    omega
  | escaped =>
    have hp : (Reader.read {} s).step ' ' = (Reader.read {} s).put .bare [.literal ' '] := by
      simp [Reader.step, hk]
    rw [hp] at total he hl hc
    obtain ⟨ho, -⟩ := Reader.ordinary_of_literals
      (r := (Reader.read {} s).put .bare [.literal ' ']) t.toList rfl (by omega)
    rw [Reader.foldl_ordinary ho, Reader.ended, List.map_append] at he
    have hs : _ ++ [_] = [plain s] ++ [plain t] := he
    have hw := congrArg List.length (List.cons.inj (List.append_inj_right' hs rfl)).1
    rw [length_settle] at hw
    simp [plain] at hw
    omega
  | single | double | doubleEscaped | comment =>
    have hlt := Reader.literals_foldl_lt (' ' :: t.toList) (by simp [hk]) (by simp [hk]) hq
    rw [List.foldl_cons, List.length_cons] at hlt
    omega

/-- Two texts with a blank between them are read as two words of their own characters just if both
are bare words. The first need not be one if only its own word is looked at: what has been lost in
it can be made good in the second. -/
theorem reads_pair_iff (s t : String) :
    Reads (s ++ " " ++ t) [plain s, plain t] ↔ IsBareWord s ∧ IsBareWord t := by
  constructor
  · intro h
    obtain ⟨ho, hh⟩ := Reader.ordinary_of_literals (r := {}) s.toList rfl
      (Nat.le_trans (Nat.le_of_eq (Nat.zero_add _)) h.length_le_literals)
    obtain ⟨hc, ht⟩ := hh rfl
    by_cases hn : s = ""
    · subst hn
      exact absurd ((Reads.blank_iff (s := "") ⟨rfl, rfl⟩).mp h) (not_reads_empty_pair t)
    · have first := (spells_of_ordinary hn ho hc ht).reads
      have hw := h.2
      rw [read_blank first.1, Reader.ended_after, List.map_append, first.2] at hw
      have hb : IsBareWord s := ⟨hn, ⟨ho, (List.cons.inj hw).1⟩, hc, ht⟩
      exact ⟨hb, (reads_plain_iff t).mp (hb.reads.blank_iff.mp h)⟩
  · rintro ⟨hs, ht⟩
    exact hs.reads.blank ht.reads

example : shellWords (" \"" ++ " " ++ "\\\"\"") = [plain " \""] := by decide

end BuildScript.Text

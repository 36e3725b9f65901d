import BuildScript.Text.Blank
import BuildScript.Text.Case

/-! # Lowered text

Lowering maps every character to characters that it leaves as they are, and none to a blank. So text
that has been trimmed and lowered is not changed by being trimmed and lowered again.
-/

namespace BuildScript.Text

/-! ## The table of lower forms -/

theorem of_search {α : Type} {span : α → Nat × Nat} {table : Array α} {c lo hi : Nat} {entry : α}
    (h : search span table c lo hi = some entry) :
    entry ∈ table ∧ (span entry).1 ≤ c ∧ c ≤ (span entry).2 := by
  fun_induction search span table c lo hi with
  | case1 => cases h
  | case2 _ _ _ _ _ _ _ _ _ _ ih => exact ih h
  | case3 _ _ _ _ _ _ _ _ _ _ _ ih => exact ih h
  | case4 lo hi _ _ found hm first last hs hc hl =>
    cases h
    rw [hs]
    exact ⟨Array.mem_of_getElem? hm, Nat.le_of_not_lt hc, Nat.le_of_not_lt hl⟩
  | case5 => cases h

namespace CaseRun

def Holds (run : CaseRun) (n : Nat) : Prop :=
  run.first ≤ n ∧ n ≤ run.last ∧ (n - run.first) % run.step = 0

instance (run : CaseRun) (n : Nat) : Decidable (run.Holds n) := inferInstanceAs (Decidable (_ ∧ _))

def form (run : CaseRun) (n : Nat) : Nat := (n + run.shift).toNat

/-- The forms to which a stretch maps lie beside a range. -/
def isBeside (run : CaseRun) (range : Nat × Nat) : Bool :=
  (run.form run.last).blt range.1 || range.2.blt (run.form run.first)

/-- The forms to which a stretch maps lie beside another stretch, or between its members. -/
def misses (run other : CaseRun) : Bool :=
  run.isBeside (other.first, other.last) ||
    (other.step == 2 && (run.step == 2 || run.first == run.last) &&
      (run.form run.first + other.first) % 2 == 1)

end CaseRun

theorem shiftCase_cases (table : Array (Nat × Nat × Nat × Int)) (c : Char) :
    shiftCase table c = c ∨ ∃ run ∈ table.toList.map CaseRun.ofTuple, run.Holds c.toNat ∧
      shiftCase table c = Char.ofNat (run.form c.toNat) := by
  unfold shiftCase
  cases hs : search (fun e => (e.1, e.2.1)) table c.toNat 0 table.size with
  | none => exact .inl rfl
  | some e =>
    obtain ⟨hm, hf, hl⟩ := of_search hs
    by_cases hr : (c.toNat - (CaseRun.ofTuple e).first) % (CaseRun.ofTuple e).step = 0
    · exact .inr ⟨_, List.mem_map_of_mem (Array.mem_toList_iff.mpr hm), ⟨hf, hl, hr⟩, if_pos hr⟩
    · exact .inl (if_neg hr)

/-- The stretches of the characters with a lower form. -/
def lowerStretches : List CaseRun := lowerRuns.toList.map CaseRun.ofTuple

/-- The ranges that no lower form lies in: the blanks, the capitals that are not lowered by the
table, and the surrogates. -/
def barredRanges : List (Nat × Nat) :=
  [(9, 13), (28, 32), (0x41, 0x5a), (0x85, 0x85), (0xa0, 0xa0), (0x130, 0x130), (0x3a3, 0x3a3),
    (0x1680, 0x1680), (0x2000, 0x200a), (0x2028, 0x2029), (0x202f, 0x202f), (0x205f, 0x205f),
    (0x3000, 0x3000), (0xd800, 0xdfff)]

theorem lowerStretches_miss :
    lowerStretches.all (fun run => lowerStretches.all run.misses) = true := by
  decide +kernel

theorem lowerStretches_beside :
    lowerStretches.all (fun run => decide (0 ≤ run.first + run.shift) &&
      (run.form run.last).blt 0x110000 && barredRanges.all run.isBeside) = true := by
  decide +kernel

section Form

variable {run : CaseRun} (hr : run ∈ lowerStretches) {n : Nat} (hn : run.Holds n)
include hr hn

theorem form_bounds : run.form n = run.form run.first + (n - run.first) ∧
    run.form n ≤ run.form run.last ∧ run.form n < 0x110000 := by
  have hs := List.all_eq_true.mp lowerStretches_beside run hr
  simp only [Bool.and_eq_true, decide_eq_true_eq, Nat.blt_eq] at hs
  obtain ⟨hf, hl, -⟩ := hn
  obtain ⟨⟨hz, hb⟩, -⟩ := hs
  unfold CaseRun.form at hb ⊢
  omega

theorem form_beside {range : Nat × Nat} (hb : run.isBeside range = true) :
    run.form n < range.1 ∨ range.2 < run.form n := by
  have hs := form_bounds hr hn
  simp only [CaseRun.isBeside, Bool.or_eq_true, Nat.blt_eq] at hb
  omega

theorem form_barred {range : Nat × Nat} (hb : range ∈ barredRanges) :
    run.form n < range.1 ∨ range.2 < run.form n := by
  have hs := List.all_eq_true.mp lowerStretches_beside run hr
  simp only [Bool.and_eq_true] at hs
  exact form_beside hr hn (List.all_eq_true.mp hs.2 range hb)

theorem toNat_form : (Char.ofNat (run.form n)).toNat = run.form n := by
  have hb := form_bounds hr hn
  have hs : run.form n < 0xd800 ∨ 0xdfff < run.form n :=
    form_barred hr hn (by decide : ((0xd800, 0xdfff) : Nat × Nat) ∈ barredRanges)
  have hv : (run.form n).isValidChar := by unfold Nat.isValidChar; omega
  rw [Char.ofNat, dif_pos hv]
  exact UInt32.toNat_ofNatLT

theorem not_holds_form {other : CaseRun} (ho : other ∈ lowerStretches) :
    ¬other.Holds (run.form n) := by
  rintro ⟨hf, hl, hm⟩
  have miss := List.all_eq_true.mp (List.all_eq_true.mp lowerStretches_miss run hr) other ho
  unfold CaseRun.misses at miss
  rcases Bool.or_eq_true_iff.mp miss with hb | hp
  · have hs := form_beside hr hn hb
    dsimp only at hs
    omega
  · simp only [Bool.and_eq_true, Bool.or_eq_true, beq_iff_eq] at hp
    obtain ⟨⟨ho2, hs⟩, hp⟩ := hp
    have hz := form_bounds hr hn
    obtain ⟨hf', hl', hm'⟩ := hn
    have even : (n - run.first) % 2 = 0 := by
      rcases hs with hs | hs
      · rwa [hs] at hm'
      · rw [Nat.le_antisymm (hs ▸ hl') hf', Nat.sub_self]
    rw [ho2] at hm
    omega

end Form

/-! ## Characters that lowering leaves as they are -/

/-- A character that is its own lower form, wherever it stands. -/
def IsLow (c : Char) : Prop := ∀ before after, lowerChar before c after = [c]

theorem isLow_of_small {c : Char} (hc : c.toNat < 128) (h : c.toLower = c) : IsLow c :=
  fun _ _ => by rw [lowerChar, if_pos hc, h]

section

variable {c : Char} (hc : ¬c.toNat < 128) (hs : c.toNat ≠ 0x3a3) (hi : c.toNat ≠ 0x130)
include hc hs hi

theorem isLow_of_fixed (h : shiftCase lowerRuns c = c) : IsLow c :=
  fun _ _ => by rw [lowerChar, if_neg hc, if_neg hs, if_neg hi, h]

theorem isLow_of_not_holds (h : ∀ run ∈ lowerStretches, ¬run.Holds c.toNat) : IsLow c := by
  obtain he | ⟨run, hr, hn, -⟩ := shiftCase_cases lowerRuns c
  · exact isLow_of_fixed hc hs hi he
  · exact absurd hn (h run hr)

end

/-- The two small sigmas and the combining dot have no lower forms. -/
theorem lowerStretches_skip : ∀ n ∈ [0x3c2, 0x3c3, 0x307], ∀ run ∈ lowerStretches,
    ¬run.Holds n := by
  decide +kernel

theorem toLower_ascii : ∀ n : Fin 128, (Char.ofNat n).toLower.toNat < 128 ∧
    (Char.ofNat n).toLower.toLower = (Char.ofNat n).toLower ∧
    (isBlank (Char.ofNat n) = false → isBlank (Char.ofNat n).toLower = false) ∧
    ((Char.ofNat n).toLower = Char.ofNat n ∨ 0x41 ≤ n.val ∧ n.val ≤ 0x5a) := by
  decide +kernel

section Form

variable {run : CaseRun} (hr : run ∈ lowerStretches) {n : Nat} (hn : run.Holds n)
include hr hn

theorem not_isBlank_form : isBlank (Char.ofNat (run.form n)) = false := by
  have hb (range : Nat × Nat) (h : range ∈ barredRanges) := form_barred hr hn h
  simp only [barredRanges, List.forall_mem_cons, List.not_mem_nil, false_implies, implies_true,
    and_true] at hb
  rw [← Bool.not_eq_true]
  simp only [isBlank, toNat_form hr hn, Bool.or_eq_true, Bool.and_eq_true, decide_eq_true_eq,
    beq_iff_eq]
  omega

theorem isLow_form : IsLow (Char.ofNat (run.form n)) := by
  have hb (range : Nat × Nat) (h : range ∈ barredRanges) := form_barred hr hn h
  simp only [barredRanges, List.forall_mem_cons, List.not_mem_nil, false_implies, implies_true,
    and_true] at hb
  have ht := toNat_form hr hn
  by_cases hc : run.form n < 128
  · obtain ⟨-, -, -, hl | hl⟩ := toLower_ascii ⟨run.form n, hc⟩
    · exact isLow_of_small (by rwa [ht]) hl
    · dsimp only at hl
      omega
  · refine isLow_of_not_holds (by rwa [ht]) (by omega) (by omega) fun other ho => ?_
    rw [ht]
    exact not_holds_form hr hn ho

end Form

/-- Lowering gives low characters, and blanks only for a blank. -/
theorem mem_lowerChar {before after : List Char} {c d : Char}
    (h : d ∈ lowerChar before c after) : IsLow d ∧ (isBlank c = false → isBlank d = false) := by
  have skipped (n : Nat) (hn : n ∈ [0x3c2, 0x3c3, 0x307]) : IsLow (Char.ofNat n) ∧
      (isBlank c = false → isBlank (Char.ofNat n) = false) := by
    have := lowerStretches_skip n hn
    simp only [List.mem_cons, List.not_mem_nil, or_false] at hn
    obtain rfl | rfl | rfl := hn <;>
      exact ⟨isLow_of_not_holds (by decide) (by decide) (by decide) this, fun _ => rfl⟩
  by_cases hc : c.toNat < 128
  · obtain ⟨hd, hl, hb, -⟩ := toLower_ascii ⟨c.toNat, hc⟩
    rw [Char.ofNat_toNat] at hd hl hb
    rw [lowerChar, if_pos hc, List.mem_singleton] at h
    subst h
    exact ⟨isLow_of_small hd hl, hb⟩
  rw [lowerChar, if_neg hc] at h
  by_cases hs : c.toNat = 0x3a3
  · rw [if_pos hs] at h
    split at h <;> rw [List.mem_singleton] at h <;> subst h
    · exact skipped 0x3c2 (by decide)
    · exact skipped 0x3c3 (by decide)
  rw [if_neg hs] at h
  by_cases hi : c.toNat = 0x130
  · rw [if_pos hi, List.mem_cons, List.mem_singleton] at h
    obtain rfl | rfl := h
    · exact ⟨isLow_of_small (by decide) (by decide), fun _ => rfl⟩
    · exact skipped 0x307 (by decide)
  rw [if_neg hi, List.mem_singleton] at h
  subst h
  obtain he | ⟨run, hr, hn, he⟩ := shiftCase_cases lowerRuns c
  · rw [he]
    exact ⟨isLow_of_fixed hc hs hi he, id⟩
  · rw [he]
    exact ⟨isLow_form hr hn, fun _ => not_isBlank_form hr hn⟩

theorem lowerChar_ne_nil (before : List Char) (c : Char) (after : List Char) :
    lowerChar before c after ≠ [] := by
  unfold lowerChar
  repeat' split
  all_goals exact List.cons_ne_nil _ _

/-! ## Trimmed and lowered text -/

structure IsTrimmed (cs : List Char) : Prop where
  head : ∀ c ∈ cs.head?, isBlank c = false
  last : ∀ c ∈ cs.getLast?, isBlank c = false

theorem isLow_of_mem_lowerChars {before cs : List Char} {d : Char}
    (h : d ∈ lowerChars before cs) : IsLow d := by
  induction cs generalizing before with
  | nil => cases h
  | cons c cs ih =>
    rcases List.mem_append.mp h with h | h
    · exact (mem_lowerChar h).1
    · exact ih h

theorem lowerChars_of_low {cs : List Char} (h : ∀ c ∈ cs, IsLow c) (before : List Char) :
    lowerChars before cs = cs := by
  induction cs generalizing before with
  | nil => rfl
  | cons c cs ih =>
    obtain ⟨hc, hcs⟩ := List.forall_mem_cons.mp h
    rw [lowerChars, hc, ih hcs, List.singleton_append]

theorem lowerChars_eq_nil {before cs : List Char} (h : lowerChars before cs = []) : cs = [] := by
  cases cs with
  | nil => rfl
  | cons c cs => exact absurd (List.append_eq_nil_iff.mp h).1 (lowerChar_ne_nil before c cs)

theorem head?_lowerChars {before cs : List Char} {d : Char}
    (h : d ∈ (lowerChars before cs).head?) :
    ∃ c ∈ cs.head?, isBlank c = false → isBlank d = false := by
  cases cs with
  | nil => cases h
  | cons c cs =>
    obtain ⟨e, es, he⟩ := List.exists_cons_of_ne_nil (lowerChar_ne_nil before c cs)
    rw [lowerChars, he] at h
    cases h
    exact ⟨c, rfl, (mem_lowerChar (he ▸ List.mem_cons_self : d ∈ lowerChar before c cs)).2⟩

theorem getLast?_lowerChars {before cs : List Char} {d : Char}
    (h : d ∈ (lowerChars before cs).getLast?) :
    ∃ c ∈ cs.getLast?, isBlank c = false → isBlank d = false := by
  induction cs generalizing before with
  | nil => cases h
  | cons c cs ih =>
    rw [lowerChars, List.getLast?_append] at h
    cases hl : (lowerChars (c :: before) cs).getLast? with
    | none =>
      rw [hl, Option.none_or] at h
      rw [lowerChars_eq_nil (List.getLast?_eq_none_iff.mp hl)]
      exact ⟨c, rfl, (mem_lowerChar (List.mem_of_getLast? h)).2⟩
    | some e =>
      rw [hl, Option.some_or] at h
      obtain ⟨a, ha, hd⟩ := ih (hl.trans h)
      exact ⟨a, by rw [Option.mem_def] at ha ⊢; rw [List.getLast?_cons, ha]; rfl, hd⟩

namespace IsTrimmed

theorem lowerChars {cs : List Char} (h : IsTrimmed cs) (before : List Char) :
    IsTrimmed (lowerChars before cs) where
  head _ hd := by
    obtain ⟨c, hc, hb⟩ := head?_lowerChars hd
    exact hb (h.head c hc)
  last _ hd := by
    obtain ⟨c, hc, hb⟩ := getLast?_lowerChars hd
    exact hb (h.last c hc)

theorem map {cs : List Char} (h : IsTrimmed cs) {f : Char → Char}
    (hf : ∀ c, isBlank c = false → isBlank (f c) = false) : IsTrimmed (cs.map f) where
  head d hd := by
    rw [List.head?_map, Option.mem_def, Option.map_eq_some_iff] at hd
    obtain ⟨c, hc, rfl⟩ := hd
    exact hf c (h.head c hc)
  last d hd := by
    rw [List.getLast?_map, Option.mem_def, Option.map_eq_some_iff] at hd
    obtain ⟨c, hc, rfl⟩ := hd
    exact hf c (h.last c hc)

theorem dropWhile_eq {cs : List Char} (h : ∀ c ∈ cs.head?, isBlank c = false) :
    cs.dropWhile isBlank = cs := by
  cases cs with
  | nil => rfl
  | cons c cs => rw [List.dropWhile_cons_of_neg (by rw [h c rfl]; exact Bool.false_ne_true)]

theorem strip_eq {s : String} (h : IsTrimmed s.toList) : strip s = s := by
  have hl : ∀ c ∈ s.toList.reverse.head?, isBlank c = false := by
    rw [List.head?_reverse]
    exact h.last
  rw [strip, dropWhile_eq h.head, dropWhile_eq hl, List.reverse_reverse, String.ofList_toList]

end IsTrimmed

theorem head?_dropWhile {cs : List Char} {c : Char} (h : c ∈ (cs.dropWhile isBlank).head?) :
    isBlank c = false := by
  have := List.head?_dropWhile_not isBlank cs
  rw [Option.mem_def] at h
  rw [h] at this
  exact this

theorem isTrimmed_strip (s : String) : IsTrimmed (strip s).toList := by
  rw [strip, String.toList_ofList]
  constructor
  · intro c hc
    obtain ⟨_, hp⟩ := List.reverse_prefix.mpr
      (List.dropWhile_suffix isBlank (l := (s.toList.dropWhile isBlank).reverse))
    rw [List.reverse_reverse] at hp
    have : c ∈ (s.toList.dropWhile isBlank).head? := by
      rw [← hp, List.head?_append, hc, Option.some_or]
      rfl
    exact head?_dropWhile this
  · intro c hc
    rw [List.getLast?_reverse] at hc
    exact head?_dropWhile hc

theorem lower_of_low {s : String} (h : ∀ c ∈ s.toList, IsLow c) : lower s = s := by
  rw [lower, lowerChars_of_low h, String.ofList_toList]

end BuildScript.Text

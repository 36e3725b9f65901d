import Mathlib.Data.List.Basic
import BuildScript.Environment.Assignment

/-! # Lines of assignments

How variables are written down in a line: each as an identifier, an equals sign and a value in one
of four forms, with the mark in front if it is secure, and blanks between them. A line that is
written so is read back as its variables.
-/

namespace BuildScript.Environment

/-! ## Written variables -/

/-- A letter or underscore, and then letters, digits and underscores. -/
def IsKey : List Char → Prop
  | [] => False
  | c :: rest => isKeyStart c = true ∧ rest.all isKeyChar = true

structure IsGap (cs : List Char) : Prop where
  ne_nil : cs ≠ []
  blank : ∀ c ∈ cs, Text.isBlank c = true

/-- A character between double quotes, where a quote and a backslash need a backslash in front. -/
def escape (c : Char) : List Char := if c = '"' ∨ c = '\\' then ['\\', c] else [c]

/-- The four forms of a value. -/
inductive IsValue : List Char → Prop
  | doubleQuoted (text : List Char) : IsValue ('"' :: (text.flatMap escape ++ ['"']))
  | singleQuoted (text : List Char) (h : '\'' ∉ text) : IsValue ('\'' :: (text ++ ['\'']))
  | substitution (text : List Char) (h : ')' ∉ text) : IsValue ('$' :: '(' :: (text ++ [')']))
  | bare {word : List Char} (hw : word.all isBareChar = true) (hs : ¬['$', '('] <+: word) :
    IsValue word

def secureWord : List Char := ['S', 'E', 'C', 'U', 'R', 'E']

/-- A variable is written as its key and its value, after a mark and blanks if it is secure. -/
inductive Spells : Variable → List Char → Prop
  | plain {key value : String} (hk : IsKey key.toList) (hv : IsValue value.toList) :
    Spells ⟨key, value, false, true⟩ (key.toList ++ '=' :: value.toList)
  | marked {key value : String} {gap : List Char} (hg : IsGap gap) (hk : IsKey key.toList)
    (hv : IsValue value.toList) : Spells ⟨key, value, true, true⟩
      (secureWord ++ (gap ++ (key.toList ++ '=' :: value.toList)))

/-- Variables are written one after the other with blanks between them. -/
inductive Written : List Variable → List Char → Prop
  | nil : Written [] []
  | last {v : Variable} {cs : List Char} (h : Spells v cs) : Written [v] cs
  | cons {v w : Variable} {vs : List Variable} {cs gap rest : List Char} (h : Spells v cs)
    (hg : IsGap gap) (hr : Written (w :: vs) rest) : Written (v :: w :: vs) (cs ++ (gap ++ rest))

/-- The variable as it is read where every variable is secure, or where only marked ones are. -/
def Variable.under (secure : Bool) (v : Variable) : Variable := { v with secure := secure || v.secure }

/-! ## Keys and marks -/

theorem isKeyChar_of_isKeyStart {c : Char} (h : isKeyStart c = true) : isKeyChar c = true := by
  simp only [isKeyStart, isKeyChar, Char.isAlphanum, Bool.or_eq_true] at h ⊢
  tauto

theorem isKeyChar_of_isBlank {c : Char} (h : Text.isBlank c = true) : isKeyChar c = false := by
  rw [Bool.eq_false_iff]
  intro hk
  simp only [Text.isBlank, Bool.or_eq_true, Bool.and_eq_true, decide_eq_true_eq, beq_iff_eq] at h
  delta isKeyChar Char.isAlphanum Char.isAlpha Char.isUpper Char.isLower Char.isDigit at hk
  simp only [Bool.or_eq_true, Bool.and_eq_true, decide_eq_true_eq, UInt32.le_iff_toNat_le,
    ge_iff_le, beq_iff_eq] at hk
  change (((65 ≤ c.toNat ∧ c.toNat ≤ 90) ∨ (97 ≤ c.toNat ∧ c.toNat ≤ 122)) ∨
    (48 ≤ c.toNat ∧ c.toNat ≤ 57)) ∨ c = '_' at hk
  have underscore : c = '_' → c.toNat = 95 := fun h => h ▸ rfl
  rcases hk with hk | hk
  · omega
  · have := underscore hk
    omega

theorem not_isKeyStart_of_isBlank {c : Char} (h : Text.isBlank c = true) : isKeyStart c = false := by
  rw [Bool.eq_false_iff]
  intro hk
  simpa [isKeyChar_of_isBlank h] using isKeyChar_of_isKeyStart hk

theorem key?_append {key rest : List Char} (h : IsKey key)
    (hr : ∀ c ∈ rest.head?, isKeyChar c = false) : key? (key ++ rest) = some (key, rest) := by
  cases key with
  | nil => exact h.elim
  | cons c more =>
    obtain ⟨hc, hm⟩ := h
    rw [List.all_eq_true] at hm
    have stop : rest.takeWhile isKeyChar = [] ∧ rest.dropWhile isKeyChar = rest := by
      cases rest with
      | nil => exact ⟨rfl, rfl⟩
      | cons d _ => simp [hr d rfl]
    simp [key?, hc, List.takeWhile_append_of_pos hm, List.dropWhile_append_of_pos hm, stop]

theorem isKey_secureWord : IsKey secureWord := ⟨rfl, rfl⟩

theorem not_isKeyChar_equals (rest : List Char) :
    ∀ c ∈ ('=' :: rest).head?, isKeyChar c = false := by
  rintro c hc
  cases hc
  rfl

/-- A key is no mark, even if it begins like one: the equals sign after it is no blank. -/
theorem secureMark?_key {key : List Char} (h : IsKey key) (rest : List Char) :
    secureMark? (key ++ '=' :: rest) = none := by
  have hk := key?_append h (not_isKeyChar_equals rest)
  generalize key ++ '=' :: rest = cs at hk
  unfold secureMark?
  split
  · next c more =>
    -- the word would be a key that ends in front of a blank, and a key has one end only
    refine if_neg fun hc => ?_
    have mark : key? (secureWord ++ c :: more) = some (secureWord, c :: more) :=
      key?_append isKey_secureWord fun d hd => by
        cases hd
        exact isKeyChar_of_isBlank hc
    obtain ⟨-, hr⟩ := Prod.mk.inj (Option.some.inj (mark.symm.trans hk))
    obtain ⟨rfl, -⟩ := List.cons.inj hr
    cases hc
  · rfl

theorem secureMark?_append {gap key : List Char} (hg : IsGap gap) (hk : IsKey key)
    (rest : List Char) :
    secureMark? (secureWord ++ (gap ++ (key ++ '=' :: rest))) = some (key ++ '=' :: rest) := by
  obtain ⟨b, more, rfl⟩ := List.exists_cons_of_ne_nil hg.ne_nil
  obtain ⟨hb, hm⟩ := List.forall_mem_cons.mp hg.blank
  cases key with
  | nil => exact hk.elim
  | cons c name =>
    have stop : Text.isBlank c = false := by
      rw [Bool.eq_false_iff]
      intro hc
      simpa [not_isKeyStart_of_isBlank hc] using hk.1
    simp [secureWord, secureMark?, hb, List.dropWhile_append_of_pos hm, stop]

/-! ## Values -/

def Ends (rest : List Char) : Prop := ∀ c ∈ rest.head?, Text.isBlank c = true

theorem ends_nil : Ends [] := by
  rintro c ⟨⟩

theorem Ends.notMem {rest : List Char} (h : Ends rest) {c : Char} (hc : Text.isBlank c = false) :
    c ∉ rest.head? := by
  intro hm
  rw [h c hm] at hc
  cases hc

theorem IsGap.ends {gap : List Char} (h : IsGap gap) (rest : List Char) : Ends (gap ++ rest) := by
  obtain ⟨b, more, rfl⟩ := List.exists_cons_of_ne_nil h.ne_nil
  rintro c ⟨⟩
  exact h.blank b List.mem_cons_self

theorem doubleQuoted_escaped (text rest : List Char) :
    doubleQuoted (text.flatMap escape ++ '"' :: rest) =
      some (text.flatMap escape ++ ['"'], rest) := by
  induction text with
  | nil => rfl
  | cons c more ih =>
    by_cases hq : c = '"'
    · subst hq
      simp [escape, doubleQuoted, ih, prepend]
    by_cases hs : c = '\\'
    · subst hs
      simp [escape, doubleQuoted, ih, prepend]
    · simp [escape, hq, hs, doubleQuoted, ih, prepend]

theorem closedBy_append {close : Char} {text : List Char} (h : close ∉ text) (rest : List Char) :
    closedBy close (text ++ close :: rest) = some (text ++ [close], rest) := by
  induction text with
  | nil => simp [closedBy]
  | cons c more ih =>
    obtain ⟨hc, hm⟩ := List.ne_and_not_mem_of_not_mem_cons h
    simp [closedBy, Ne.symm hc, ih hm, prepend]

theorem bare_append {word rest : List Char} (hw : ∀ c ∈ word, isBareChar c = true)
    (stop : ∀ c ∈ rest.head?, isBareChar c = false) : bare (word ++ rest) = (word, rest) := by
  rw [bare, List.takeWhile_append_of_pos hw, List.dropWhile_append_of_pos hw]
  cases rest with
  | nil => simp
  | cons c more => simp [stop c rfl]

theorem value_eq_bare {cs : List Char} (hd : '"' ∉ cs.head?) (hq : '\'' ∉ cs.head?)
    (hs : ¬['$', '('] <+: cs) : value cs = bare cs := by
  unfold value
  split
  · exact absurd rfl hd
  · exact absurd rfl hq
  · next rest => exact absurd ⟨rest, rfl⟩ hs
  · rfl

theorem value_bare {word rest : List Char} (hw : ∀ c ∈ word, isBareChar c = true)
    (hs : ¬['$', '('] <+: word) (he : Ends rest) : value (word ++ rest) = (word, rest) := by
  rw [← bare_append hw fun c hc => by simp [isBareChar, he c hc]]
  cases word with
  | nil =>
    refine value_eq_bare (he.notMem rfl) (he.notMem rfl) ?_
    rintro ⟨more, rfl⟩
    exact he.notMem (c := '$') rfl rfl
  | cons c more =>
    have hc := hw c List.mem_cons_self
    refine value_eq_bare (by rintro ⟨⟩; cases hc) (by rintro ⟨⟩; cases hc) fun hp => ?_
    rw [List.cons_append, List.cons_prefix_cons] at hp
    obtain ⟨rfl, hp⟩ := hp
    -- the second character of a substitution would have to be in the word or after it
    cases more with
    | nil =>
      obtain ⟨after, rfl⟩ := hp
      exact he.notMem (c := '(') rfl rfl
    | cons d more =>
      obtain ⟨rfl, -⟩ := List.cons_prefix_cons.mp hp
      exact hs ⟨more, rfl⟩

theorem value_append {v rest : List Char} (hv : IsValue v) (he : Ends rest) :
    value (v ++ rest) = (v, rest) := by
  cases hv with
  | doubleQuoted text => simp [value, doubleQuoted_escaped, prepend]
  | singleQuoted text h => simp [value, closedBy_append h, prepend]
  | substitution text h => simp [value, closedBy_append h, prepend]
  | bare hw hs => exact value_bare (List.all_eq_true.mp hw) hs he

/-! ## Assignments -/

theorem plain?_append {key v rest : List Char} (hk : IsKey key) (hv : IsValue v) (he : Ends rest)
    (secure : Bool) : plain? secure (key ++ '=' :: (v ++ rest)) =
      some (⟨String.ofList key, String.ofList v, secure, true⟩, rest) := by
  rw [plain?, key?_append hk (not_isKeyChar_equals _)]
  simp [value_append hv he]

/-- A variable that is written down is read as it is, up to the end of its value. -/
theorem assignment?_append {v : Variable} {cs rest : List Char} (h : Spells v cs) (he : Ends rest)
    (secure : Bool) : assignment? secure (cs ++ rest) = some (v.under secure, rest) := by
  cases h with
  | plain hk hv =>
    rw [List.append_assoc, List.cons_append, assignment?, secureMark?_key hk, Option.bind_none,
      plain?_append hk hv he]
    simp [Variable.under]
  | @marked key value gap hg hk hv =>
    have hm := secureMark?_append hg hk (value.toList ++ rest)
    have hp := plain?_append hk hv he true
    simp only [List.append_assoc, List.cons_append]
    rw [assignment?, hm, Option.bind_some, hp]
    simp [Variable.under]

/-! ## Scans -/

theorem scan_eq_drop (secure : Bool) (skip : Nat) (cs : List Char) :
    scan secure skip cs = scan secure 0 (cs.drop skip) := by
  induction cs generalizing skip with
  | nil => cases skip <;> simp [scan]
  | cons c rest ih =>
    cases skip with
    | zero => rfl
    | succ skip => rw [scan, ih, List.drop_succ_cons]

/-- Where an assignment begins it is taken, and the scan goes on after it. -/
theorem scan_append {secure : Bool} {cs rest : List Char} {v : Variable} (hn : cs ≠ [])
    (h : assignment? secure (cs ++ rest) = some (v, rest)) :
    scan secure 0 (cs ++ rest) = v :: scan secure 0 rest := by
  obtain ⟨c, more, rfl⟩ := List.exists_cons_of_ne_nil hn
  rw [List.cons_append] at h ⊢
  rw [scan, h]
  dsimp only
  rw [scan_eq_drop, List.length_append, Nat.add_sub_cancel, List.drop_left]

/-- No assignment begins where no key begins, since the mark begins like a key. -/
theorem assignment?_of_not_isKeyStart {c : Char} (hc : isKeyStart c = false) (secure : Bool)
    (rest : List Char) : assignment? secure (c :: rest) = none := by
  have mark : secureMark? (c :: rest) = none := by
    unfold secureMark?
    split
    · next he =>
      obtain ⟨rfl, -⟩ := List.cons.inj he
      cases hc
    · rfl
  simp [assignment?, mark, plain?, key?, hc]

theorem scan_gap {gap : List Char} (h : ∀ c ∈ gap, Text.isBlank c = true) (secure : Bool)
    (cs : List Char) : scan secure 0 (gap ++ cs) = scan secure 0 cs := by
  induction gap with
  | nil => rfl
  | cons c rest ih =>
    obtain ⟨hc, hr⟩ := List.forall_mem_cons.mp h
    rw [List.cons_append, scan, assignment?_of_not_isKeyStart (not_isKeyStart_of_isBlank hc)]
    exact ih hr

theorem Spells.ne_nil {v : Variable} {cs : List Char} (h : Spells v cs) : cs ≠ [] := by
  cases h <;> simp [secureWord]

theorem scan_written {vs : List Variable} {cs : List Char} (h : Written vs cs) (secure : Bool) :
    scan secure 0 cs = vs.map (Variable.under secure) := by
  induction h with
  | nil => rfl
  | @last v cs h =>
    have ha : assignment? secure (cs ++ []) = some (v.under secure, []) :=
      assignment?_append h ends_nil secure
    rw [← List.append_nil cs, scan_append h.ne_nil ha]
    rfl
  | cons h hg _ ih =>
    rw [scan_append h.ne_nil (assignment?_append h (hg.ends _) secure), scan_gap hg.blank, ih]
    rfl

theorem parse_of_written {vs : List Variable} {line : String} (h : Written vs line.toList)
    (secure : Bool) : parse line secure = vs.map (Variable.under secure) := scan_written h secure

end BuildScript.Environment

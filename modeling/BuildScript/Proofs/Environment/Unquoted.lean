import BuildScript.Proofs.Environment.Division

/-! # Unquoted assignments

A line of assignments without quotes. A value that begins like a command substitution is read up to
the first closing parenthesis, wherever it stands, and the rest of its word is not part of it; any
other unquoted value is read in full.
-/

namespace BuildScript.Environment

/-- An assignment without quotes, and the blanks before it. -/
structure Unquoted where
  gap : List Char
  key : String
  text : String
  gap_blank : ∀ c ∈ gap, Text.isBlank c = true
  isKey : IsKey key.toList
  isBare : text.toList.all isBareChar = true

namespace Unquoted

def written (w : Unquoted) : List Char := w.gap ++ (w.key.toList ++ '=' :: w.text.toList)

def inFull (secure : Bool) (w : Unquoted) : Variable := ⟨w.key, w.text, secure, true⟩

def row (ws : List Unquoted) (tail : List Char) : List Char := ws.flatMap written ++ tail

end Unquoted

structure UnquotedLine where
  words : List Unquoted
  tail : List Char
  separated : ∀ w ∈ words.tail, w.gap ≠ []
  tail_blank : ∀ c ∈ tail, Text.isBlank c = true

def UnquotedLine.text (l : UnquotedLine) : String := String.ofList (Unquoted.row l.words l.tail)

/-- What begins like a command substitution ends at its first closing parenthesis, unless there is
none in the line. -/
def Kept (text after : List Char) : Prop :=
  ['$', '('] <+: text → ')' ∉ text.dropLast ∧ (text.getLast? = some ')' ∨ ')' ∉ after)

theorem closed_of_mem {text : List Char} (h : ')' ∈ text) :
    ∃ v rest, Closed v rest ∧ '$' :: '(' :: text = v ++ rest := by
  obtain ⟨inner, rest, rfl, hn⟩ := List.eq_append_cons_of_mem h
  exact ⟨_, rest, .substitution hn, by simp⟩

theorem stands_iff_kept {text after : List Char} (hw : text.all isBareChar = true)
    (he : Ends after) : Stands text after ↔ Kept text after := by
  constructor
  · rintro h ⟨inner, rfl⟩
    cases h with
    | closed h =>
      generalize hv : ['$', '('] ++ inner = v at h
      cases h with
      | @substitution inner _ hn =>
        rw [← List.cons_append, ← List.cons_append]
        refine ⟨?_, .inl List.getLast?_concat⟩
        rw [List.dropLast_concat]
        simpa using hn
      | doubleQuoted | lastQuote | singleQuoted => simp at hv
    | bare _ _ hn =>
      have hm : ')' ∉ inner ++ after := by
        intro hm
        obtain ⟨v, rest, hv, hr⟩ := closed_of_mem hm
        exact hn v rest hv hr
      rw [List.mem_append, not_or] at hm
      refine ⟨fun hi => ?_, .inr hm.2⟩
      simpa [hm.1] using List.dropLast_subset _ hi
  · intro h
    by_cases hs : ['$', '('] <+: text
    · obtain ⟨hd, hl⟩ := h hs
      by_cases hc : text.getLast? = some ')'
      · obtain ⟨inner, rfl⟩ := List.getLast?_eq_some_iff.mp hc
        rw [List.dropLast_concat] at hd
        obtain ⟨more, rfl⟩ : ['$', '('] <+: inner := by
          refine (List.prefix_concat_iff.mp hs).resolve_left fun he => ?_
          simpa using congrArg List.getLast? he
        exact .closed (.substitution (by simpa using hd))
      · have hm : ')' ∉ text ++ after := by
          rw [List.mem_append]
          rintro (hm | hm)
          · exact hd (List.mem_dropLast_of_mem_of_ne_getLast? hm (Ne.symm hc))
          · exact hl.resolve_left hc hm
        refine .bare hw (fun c hc => by simp [isBareChar, he c hc]) fun v rest hv hr => ?_
        obtain ⟨inner, rfl⟩ := hs
        cases hv with
        | substitution => exact hm (hr ▸ by simp)
        | doubleQuoted | lastQuote | singleQuoted => simp at hr
    · exact (value_eq_iff.mp (value_bare (List.all_eq_true.mp hw) hs he)).2

namespace Unquoted

theorem ends_row {ws : List Unquoted} {tail : List Char} (hs : ∀ w ∈ ws, w.gap ≠ [])
    (ht : ∀ c ∈ tail, Text.isBlank c = true) : Ends (row ws tail) := by
  cases ws with
  | nil => exact fun c hc => ht c (List.mem_of_mem_head? hc)
  | cons w ws =>
    have hg : IsGap w.gap := ⟨hs w List.mem_cons_self, w.gap_blank⟩
    rw [row, List.flatMap_cons, written, List.append_assoc, List.append_assoc]
    exact hg.ends _

/-- The first assignment is read in full, and the rest of the row after it, just if its text stands
as a value. -/
theorem scan_cons_iff (secure : Bool) (w : Unquoted) (ws : List Unquoted) (tail : List Char) :
    scan secure 0 (row (w :: ws) tail) = (w :: ws).map (inFull secure) ↔
      Stands w.text.toList (row ws tail) ∧
        scan secure 0 (row ws tail) = ws.map (inFull secure) := by
  obtain ⟨v, rest, hv⟩ : ∃ v rest, value (w.text.toList ++ row ws tail) = (v, rest) := ⟨_, _, rfl⟩
  obtain ⟨he, hs⟩ := value_eq_iff.mp hv
  have ht : row (w :: ws) tail = w.gap ++ ([] ++ (w.key.toList ++
      '=' :: ((String.ofList v).toList ++ rest))) := by
    rw [String.toList_ofList, ← he]
    simp [row, written]
  have scanned : scan secure 0 (row (w :: ws) tail) =
      ⟨w.key, String.ofList v, secure, true⟩ :: scan secure 0 rest := by
    rw [ht, scan_gap w.gap_blank, scan_mark .unmarked w.isKey (by rwa [String.toList_ofList]),
      Bool.or_false]
  rw [scanned, List.map_cons, List.cons_eq_cons]
  constructor
  · rintro ⟨hw, hr⟩
    have hv : String.ofList v = w.text := congrArg Variable.value hw
    obtain rfl : v = w.text.toList := by rw [← hv, String.toList_ofList]
    obtain rfl := List.append_cancel_left he
    exact ⟨hs, hr⟩
  · rintro ⟨hw, hr⟩
    obtain ⟨rfl, rfl⟩ := Prod.mk.inj (hv.symm.trans (value_eq_iff.mpr ⟨rfl, hw⟩))
    rw [String.ofList_toList]
    exact ⟨rfl, hr⟩

theorem scan_row_iff (secure : Bool) {ws : List Unquoted} {tail : List Char}
    (hs : ∀ w ∈ ws.tail, w.gap ≠ []) (ht : ∀ c ∈ tail, Text.isBlank c = true) :
    scan secure 0 (row ws tail) = ws.map (inFull secure) ↔
      ∀ w after, w :: after <:+ ws → Kept w.text.toList (row after tail) := by
  induction ws with
  | nil =>
    have he : scan secure 0 (row [] tail) = [] := by
      have := scan_gap ht secure []
      rwa [List.append_nil] at this
    exact ⟨fun _ w after h => absurd (List.suffix_nil.mp h) (List.cons_ne_nil _ _), fun _ => he⟩
  | cons w ws ih =>
    have he : Ends (row ws tail) := ends_row hs ht
    rw [scan_cons_iff, stands_iff_kept w.isBare he,
      ih fun v hv => hs v (List.mem_of_mem_tail hv)]
    constructor
    · rintro ⟨hw, hr⟩ v after h
      rcases List.suffix_cons_iff.mp h with he | h
      · obtain ⟨rfl, rfl⟩ := List.cons.inj he
        exact hw
      · exact hr v after h
    · intro h
      exact ⟨h w ws List.suffix_rfl, fun v after hv => h v after (hv.trans (List.suffix_cons w ws))⟩

end Unquoted

/-- A line of unquoted assignments is read as one variable for each, with the whole of its text as
the value, just if no text that begins like a command substitution goes on behind its first closing
parenthesis, nor leaves that parenthesis to what follows it. -/
theorem unquoted_read_in_full_iff (l : UnquotedLine) (secure : Bool) :
    parse l.text secure = l.words.map (Unquoted.inFull secure) ↔
      ∀ w after, w :: after <:+ l.words → Kept w.text.toList (Unquoted.row after l.tail) := by
  rw [parse, UnquotedLine.text, String.toList_ofList]
  exact Unquoted.scan_row_iff secure l.separated l.tail_blank

def printedPath : UnquotedLine where
  words := [⟨[], "BIN", "$(pwd)/bin", by simp, ⟨rfl, rfl⟩, by decide⟩]
  tail := []
  separated := by simp
  tail_blank := by simp

/-- What follows a command substitution in its word is lost. -/
theorem substitution_cut_short :
    parse printedPath.text = [⟨"BIN", "$(pwd)", false, true⟩] ∧
      parse printedPath.text ≠ printedPath.words.map (Unquoted.inFull false) := by
  decide +kernel

end BuildScript.Environment

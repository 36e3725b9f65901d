import BuildScript.Text.ShellWord

/-! # Words of a shell text

How a POSIX shell cuts a text into words. Blanks separate words, everything between single quotes
stands for itself, and between double quotes only expansions are left to the shell. A quoted text
comes back as one word, or as the rest of the word before it, in which each character stands for
itself.

Outside quotes some characters mean something to the shell wherever they stand, a tilde at the start
of a word only, and a dollar sign or a bracket only with what comes after it. The last are settled
when their word has ended. Braces are not expanded.
-/

namespace BuildScript.Text

/-- A character of a word: it stands for itself, or the shell acts on it. -/
inductive Glyph
  | literal (c : Char)
  | active (c : Char)
deriving DecidableEq

abbrev Word := List Glyph

def Glyph.char : Glyph → Char
  | .literal c | .active c => c

def plain (s : String) : Word := s.toList.map .literal

/-- Operators, substitutions and patterns that a shell acts on wherever they stand. -/
def activeChars : List Char := "|&;<>()\x60*?".toList

def isActive (c : Char) : Bool := activeChars.contains c

/-- What may belong to an expansion or to a bracket of a pattern. -/
def openChars : List Char := "$[]!".toList

def isOpen (c : Char) : Bool := openChars.contains c

/-! ## Open characters -/

/-- A dollar sign expands what begins like this: the name or sign of a parameter, or a bracket. Shells
do not agree on a square one, so that it is not taken for itself. -/
def expands : Word → Bool
  | [] => false
  | g :: _ => g.char.isAlphanum || "_@*#?-$!\x7b([".toList.contains g.char

/-- The members of a bracket end here or later, with no slash before their end. -/
def closes : Word → Bool
  | [] => false
  | g :: rest => g = .active ']' || g.char != '/' && closes rest

/-- An opening bracket begins a pattern with what follows it: members, of which the first may be a
closing bracket, after a sign that excludes them. -/
def opensPattern : Word → Bool
  | [] => false
  | .active '!' :: g :: rest => g.char != '/' && closes rest
  | g :: rest => g.char != '/' && closes rest

/-- What a glyph turns out to be before the rest of its word. -/
def settled (g : Glyph) (rest : Word) : Glyph :=
  match g with
  | .literal c => .literal c
  | .active c =>
    if c = '$' ∧ !expands rest ∨ c = '[' ∧ !opensPattern rest ∨ c = ']' ∨ c = '!' then .literal c
    else .active c

/-- A word that has ended: what is still active in it is acted on. A pattern shows at its opening
bracket. -/
def settle : Word → Word
  | [] => []
  | g :: rest => settled g rest :: settle rest

@[simp] theorem length_settle (w : Word) : (settle w).length = w.length := by
  induction w with
  | nil => rfl
  | cons g rest ih => rw [settle, List.length_cons, List.length_cons, ih]

theorem char_settled (g : Glyph) (rest : Word) : (settled g rest).char = g.char := by
  fun_cases settled g rest <;> rfl

theorem map_char_settle (w : Word) : (settle w).map Glyph.char = w.map Glyph.char := by
  induction w with
  | nil => rfl
  | cons g rest ih => rw [settle, List.map_cons, List.map_cons, ih, char_settled]

theorem settle_literals_append (cs : List Char) (w : Word) :
    settle (cs.map .literal ++ w) = cs.map .literal ++ settle w := by
  induction cs with
  | nil => rfl
  | cons c cs ih => exact congrArg (List.cons _) ih

@[simp] theorem settle_plain (s : String) : settle (plain s) = plain s := by
  have h := settle_literals_append s.toList []
  rwa [settle, List.append_nil] at h

/-! ## The reader -/

inductive Quoting
  | bare
  | escaped
  | single
  | double
  | doubleEscaped
  | comment
deriving DecidableEq

structure Reader where
  quoting : Quoting := .bare
  words : List Word := []
  word : Option Word := none
deriving DecidableEq

namespace Reader

def ended (r : Reader) : List Word := r.words ++ r.word.toList

/-- Whether a character outside quotes is left to the shell, as far as can be told before its word
has ended. -/
def acts (r : Reader) (c : Char) : Bool := isActive c || isOpen c || c = '~' && r.word.isNone

/-- Goes on with the word, which begins here if none is being read. -/
def put (r : Reader) (q : Quoting) (w : Word) : Reader := ⟨q, r.words, some (r.word.getD [] ++ w)⟩

/-- The end of a command, which shows as a word of its own. -/
def endCommand (r : Reader) : Reader := ⟨.bare, r.ended ++ [[.active '\n']], none⟩

def step (r : Reader) (c : Char) : Reader :=
  match r.quoting with
  | .bare =>
    if c = ' ' ∨ c = '\t' then ⟨.bare, r.ended, none⟩
    else if c = '\n' then r.endCommand
    else if c = '\'' then r.put .single []
    else if c = '"' then r.put .double []
    else if c = '\\' then { r with quoting := .escaped }
    else if c = '#' ∧ r.word = none then { r with quoting := .comment }
    else r.put .bare [if r.acts c then .active c else .literal c]
  | .escaped =>
    if c = '\n' then { r with quoting := .bare } else r.put .bare [.literal c]
  | .single => if c = '\'' then r.put .bare [] else r.put .single [.literal c]
  | .double =>
    if c = '"' then r.put .bare []
    else if c = '\\' then r.put .doubleEscaped []
    else r.put .double [if c = '$' ∨ c = '\x60' then .active c else .literal c]
  | .doubleEscaped =>
    if c = '\n' then r.put .double []
    else if c = '$' ∨ c = '\x60' ∨ c = '"' ∨ c = '\\' then r.put .double [.literal c]
    else r.put .double [.literal '\\', .literal c]
  | .comment => if c = '\n' then r.endCommand else r

def read (r : Reader) (s : String) : Reader := s.toList.foldl step r

/-- The words at the end of a text. One whose quotes are left open never ends, and is none. -/
def complete (r : Reader) : List Word :=
  match r.quoting with
  | .bare | .comment => r.ended
  | .escaped | .single | .double | .doubleEscaped => r.words

end Reader

def shellWords (s : String) : List Word := (Reader.read {} s).complete.map settle

example : shellWords "echo 'a b'\"c $d\" 'e # f" =
    [plain "echo", plain "a bc " ++ [.active '$', .literal 'd']] := by decide

example : shellWords "~u HEAD~1 v1.0^\x7bcommit\x7d a!b a[b [!]c] $ \"$\"/" =
    [.active '~' :: plain "u", plain "HEAD~1", plain "v1.0^\x7bcommit\x7d", plain "a!b", plain "a[b",
      .active '[' :: plain "!]c]", plain "$", plain "$/"] := by decide

namespace Reader

theorem read_append (r : Reader) (s t : String) : r.read (s ++ t) = (r.read s).read t := by
  rw [read, String.toList_append, List.foldl_append]
  rfl

theorem put_put (r : Reader) (p q : Quoting) (v w : Word) :
    (r.put p v).put q w = r.put q (v ++ w) := by
  simp [put]

def after (done : List Word) (r : Reader) : Reader := { r with words := done ++ r.words }

theorem ended_after (done : List Word) (r : Reader) : (r.after done).ended = done ++ r.ended :=
  List.append_assoc ..

theorem complete_after (done : List Word) (r : Reader) :
    (r.after done).complete = done ++ r.complete := by
  obtain ⟨q, words, word⟩ := r
  cases q <;> simp [after, complete, ended]

/-- What has been read does not matter to what comes. -/
theorem step_after (done : List Word) (r : Reader) (c : Char) :
    (r.after done).step c = (r.step c).after done := by
  fun_cases step r c <;> simp_all [step, after, put, endCommand, ended, acts]

theorem read_after (done : List Word) (r : Reader) (s : String) :
    (r.after done).read s = (r.read s).after done := by
  unfold read
  induction s.toList generalizing r with
  | nil => rfl
  | cons c rest ih => rw [List.foldl_cons, step_after, ih, List.foldl_cons]

end Reader

/-! ## Parts of words -/

/-- Outside quotes the text adds a part to the word that is being read. -/
def Spells (s : String) (w : Word) : Prop :=
  ∀ r : Reader, r.quoting = .bare → r.read s = r.put .bare w

theorem Spells.append {s t : String} {v w : Word} (hs : Spells s v) (ht : Spells t w) :
    Spells (s ++ t) (v ++ w) := by
  intro r hr
  rw [Reader.read_append, hs r hr, ht _ rfl, Reader.put_put]

theorem plain_append (s t : String) : plain (s ++ t) = plain s ++ plain t := by
  rw [plain, String.toList_append, List.map_append]
  rfl

/-- Characters that may stand for themselves in a word that has begun. -/
def isOrdinary (c : Char) : Bool := !isActive c && !" \t\n'\"\\".toList.contains c

theorem isOrdinary_iff {c : Char} : isOrdinary c = true ↔ isActive c = false ∧
    c ≠ ' ' ∧ c ≠ '\t' ∧ c ≠ '\n' ∧ c ≠ '\'' ∧ c ≠ '"' ∧ c ≠ '\\' := by
  have hl : " \t\n'\"\\".toList = [' ', '\t', '\n', '\'', '"', '\\'] := by decide
  simp [isOrdinary, hl]

/-- An ordinary character as it is read within a word. -/
def glyph (c : Char) : Glyph := if isOpen c then .active c else .literal c

namespace Reader

theorem step_ordinary {r : Reader} {c : Char} (hr : r.quoting = .bare) (hc : isOrdinary c = true)
    (hw : c = '#' ∨ c = '~' → r.word ≠ none) : r.step c = r.put .bare [glyph c] := by
  obtain ⟨ha, hb, ht, hn, hs, hd, he⟩ := isOrdinary_iff.mp hc
  have hm : ¬(c = '#' ∧ r.word = none) := fun ⟨hc, hn⟩ => hw (.inl hc) hn
  have home : (c = '~' && r.word.isNone) = false := by
    refine Bool.eq_false_iff.mpr fun h => ?_
    obtain ⟨hc, hn⟩ := Bool.and_eq_true_iff.mp h
    exact hw (.inr (of_decide_eq_true hc)) (Option.isNone_iff_eq_none.mp hn)
  simp [step, hr, acts, glyph, ha, hb, ht, hn, hs, hd, he, hm, home]

theorem foldl_ordinary {cs : List Char} (ho : cs.all isOrdinary = true) (r : Reader) (w : Word) :
    cs.foldl step (r.put .bare w) = r.put .bare (w ++ cs.map glyph) := by
  induction cs generalizing w with
  | nil => rw [List.map_nil, List.append_nil, List.foldl_nil]
  | cons c cs ih =>
    obtain ⟨hc, ho⟩ := Bool.and_eq_true_iff.mp (List.all_cons.symm.trans ho)
    have hs := step_ordinary (r := r.put .bare w) rfl hc fun _ => Option.some_ne_none _
    rw [List.foldl_cons, hs, put_put, ih ho, List.append_assoc]
    rfl

end Reader

/-- A text is a part of a word, in which open characters are not settled yet. -/
theorem spells_of_ordinary {s : String} (hn : s ≠ "") (ho : s.toList.all isOrdinary = true)
    (hc : s.toList.head? ≠ some '#') (ht : s.toList.head? ≠ some '~') :
    Spells s (s.toList.map glyph) := by
  intro r hr
  unfold Reader.read
  cases hl : s.toList with
  | nil => exact absurd (String.toList_injective hl) hn
  | cons c cs =>
    rw [hl] at ho hc ht
    obtain ⟨first, rest⟩ := Bool.and_eq_true_iff.mp (List.all_cons.symm.trans ho)
    have begins : c = '#' ∨ c = '~' → r.word ≠ none := by
      rintro (rfl | rfl)
      · exact absurd rfl hc
      · exact absurd rfl ht
    rw [List.foldl_cons, Reader.step_ordinary hr first begins, Reader.foldl_ordinary rest]
    rfl

theorem ne_of_safe {c d : Char} (hc : isShellSafe c = true) (hd : isShellSafe d = false) : c ≠ d := by
  rintro rfl
  cases hc.symm.trans hd

theorem isOrdinary_of_safe {c : Char} (hc : isShellSafe c = true) : isOrdinary c = true := by
  have hs : (activeChars.all fun d => !isShellSafe d) = true := by decide
  have ha : isActive c = false := by
    refine Bool.eq_false_iff.mpr fun ha => ?_
    have hf := List.all_eq_true.mp hs c (List.contains_iff_mem.mp ha)
    rw [hc] at hf
    cases hf
  exact isOrdinary_iff.mpr ⟨ha, ne_of_safe hc rfl, ne_of_safe hc rfl, ne_of_safe hc rfl,
    ne_of_safe hc rfl, ne_of_safe hc rfl, ne_of_safe hc rfl⟩

theorem glyph_of_safe {c : Char} (hc : isShellSafe c = true) : glyph c = .literal c := by
  have hs : (openChars.all fun d => !isShellSafe d) = true := by decide
  refine if_neg fun ho => ?_
  have hf := List.all_eq_true.mp hs c (List.contains_iff_mem.mp ho)
  rw [hc] at hf
  cases hf

theorem spells_of_safe {s : String} (hs : s.toList.all isShellSafe = true) (hn : s ≠ "") :
    Spells s (plain s) := by
  rw [List.all_eq_true] at hs
  have first (c : Char) (hc : isShellSafe c = false) : s.toList.head? ≠ some c := fun hh =>
    ne_of_safe (hs c (List.mem_of_head? hh)) hc rfl
  have spells := spells_of_ordinary hn
    (List.all_eq_true.mpr fun c hc => isOrdinary_of_safe (hs c hc)) (first '#' rfl) (first '~' rfl)
  rwa [List.map_congr_left fun c hc => glyph_of_safe (hs c hc)] at spells

/-- Between single quotes every character stands for itself, and a single quote leaves them for a
moment. -/
theorem foldl_step_escaped (cs : List Char) (r : Reader) (w : Word) :
    (cs.flatMap shellEscape).foldl Reader.step (r.put .single w) =
      r.put .single (w ++ cs.map .literal) := by
  induction cs generalizing w with
  | nil => rw [List.map_nil, List.append_nil, List.flatMap_nil, List.foldl_nil]
  | cons c rest ih =>
    have hc : (shellEscape c).foldl Reader.step (r.put .single w) =
        r.put .single (w ++ [.literal c]) := by
      unfold shellEscape
      split
      · next h =>
        subst h
        simp [Reader.step, Reader.put]
      · next h => simp [Reader.step, Reader.put, h]
    rw [List.flatMap_cons, List.foldl_append, hc, ih, List.append_assoc]
    rfl

theorem shellQuote_of_safe {s : String} (hs : s.toList.all isShellSafe = true) (hn : s ≠ "") :
    shellQuote s = s := by
  have hl : s.toList ≠ [] := fun hl => hn (String.toList_injective hl)
  rw [shellQuote, shellQuoteChars, if_neg hl, if_pos hs, String.ofList_toList]

/-- A quoted text adds to the word exactly its characters, each for itself. -/
theorem spells_shellQuote (s : String) : Spells (shellQuote s) (plain s) := by
  by_cases hn : s = ""
  · subst hn
    intro r hr
    change Reader.step (r.step '\'') '\'' = _
    simp [Reader.step, hr, Reader.put, plain]
  by_cases hs : s.toList.all isShellSafe = true
  · rw [shellQuote_of_safe hs hn]
    exact spells_of_safe hs hn
  · intro r hr
    have hl : s.toList ≠ [] := fun hl => hn (String.toList_injective hl)
    have ho : r.step '\'' = r.put .single [] := by simp [Reader.step, hr]
    rw [Reader.read, shellQuote, String.toList_ofList, shellQuoteChars, if_neg hl, if_neg hs,
      List.cons_append, List.foldl_cons, ho, List.foldl_append, foldl_step_escaped]
    simp [Reader.step, Reader.put, plain]

/-! ## Whole words -/

/-- The text is read as these words, and nothing is left open at its end. -/
def Reads (s : String) (ws : List Word) : Prop :=
  (Reader.read {} s).quoting = .bare ∧ (Reader.read {} s).ended.map settle = ws

instance (s : String) (ws : List Word) : Decidable (Reads s ws) :=
  inferInstanceAs (Decidable (_ ∧ _))

theorem Reads.shellWords_eq {s : String} {ws : List Word} (h : Reads s ws) : shellWords s = ws := by
  obtain ⟨hq, hw⟩ := h
  rw [shellWords, Reader.complete, hq, hw]

theorem Spells.reads {s : String} {w : Word} (h : Spells s w) : Reads s [settle w] := by
  rw [Reads, h {} rfl]
  exact ⟨rfl, rfl⟩

theorem Spells.reads_plain {s t : String} (h : Spells s (plain t)) : Reads s [plain t] :=
  settle_plain t ▸ h.reads

theorem read_blank {s : String} (h : (Reader.read {} s).quoting = .bare) (t : String) :
    Reader.read {} (s ++ " " ++ t) = (Reader.read {} t).after (Reader.read {} s).ended := by
  have hb : (Reader.read {} s).step ' ' = Reader.after (Reader.read {} s).ended {} := by
    simp [Reader.step, h, Reader.after]
  rw [Reader.read_append, Reader.read_append, ← Reader.read_after, ← hb]
  rfl

theorem Reads.blank_iff {s t : String} {ws vs : List Word} (hs : Reads s ws) :
    Reads (s ++ " " ++ t) (ws ++ vs) ↔ Reads t vs := by
  unfold Reads
  rw [read_blank hs.1, Reader.ended_after, List.map_append, hs.2, List.append_cancel_left_eq]
  rfl

theorem Reads.blank {s t : String} {ws vs : List Word} (hs : Reads s ws) (ht : Reads t vs) :
    Reads (s ++ " " ++ t) (ws ++ vs) := hs.blank_iff.mpr ht

theorem Reads.quoted {s : String} {ws : List Word} (h : Reads s ws) (text : String) :
    Reads (s ++ " " ++ shellQuote text) (ws ++ [plain text]) :=
  h.blank (spells_shellQuote text).reads_plain

theorem Reads.shellWords_blank {s : String} {ws : List Word} (h : Reads s ws) (t : String) :
    shellWords (s ++ " " ++ t) = ws ++ shellWords t := by
  rw [shellWords, read_blank h.1, Reader.complete_after, List.map_append, h.2]
  rfl

theorem reads_intercalate {l : List (String × String)} (h : ∀ x ∈ l, Spells x.1 (plain x.2)) :
    Reads (" ".intercalate (l.map Prod.fst)) (l.map fun x => plain x.2) := by
  induction l with
  | nil => exact ⟨rfl, rfl⟩
  | cons x rest ih =>
    obtain ⟨hx, hr⟩ := List.forall_mem_cons.mp h
    cases rest with
    | nil =>
      rw [List.map_singleton, String.intercalate_singleton]
      exact hx.reads_plain
    | cons y more =>
      have hm : (y :: more).map Prod.fst ≠ [] := List.cons_ne_nil _ _
      rw [List.map_cons, String.intercalate_cons_of_ne_nil hm]
      exact hx.reads_plain.blank (ih hr)

theorem reads_quoted (texts : List String) :
    Reads (" ".intercalate (texts.map shellQuote)) (texts.map plain) := by
  have h := reads_intercalate (l := texts.map fun t => (shellQuote t, t))
    (List.forall_mem_map.mpr fun t _ => spells_shellQuote t)
  rwa [List.map_map, List.map_map] at h

theorem quoted_ne_empty {texts : List String} (h : texts ≠ []) :
    " ".intercalate (texts.map shellQuote) ≠ "" := by
  intro he
  have hr := (reads_quoted texts).2
  rw [he] at hr
  exact h (List.map_eq_nil_iff.mp hr.symm)

theorem shellWords_intercalate {l : List (String × String)} (hn : l ≠ [])
    (h : ∀ x ∈ l, Spells x.1 (plain x.2)) (texts : List String) :
    shellWords (" ".intercalate (l.map Prod.fst ++ texts)) =
      (l.map fun x => plain x.2) ++ shellWords (" ".intercalate texts) := by
  have hl := reads_intercalate h
  by_cases ht : texts = []
  · subst ht
    rw [List.append_nil, hl.shellWords_eq]
    exact (List.append_nil _).symm
  · have hm : l.map Prod.fst ≠ [] := fun hm => hn (List.map_eq_nil_iff.mp hm)
    rw [String.intercalate_append_of_ne_nil hm ht]
    exact hl.shellWords_blank _

theorem shellWords_blanks (n : Nat) (s : String) :
    shellWords (String.ofList (List.replicate n ' ') ++ s) = shellWords s := by
  have hn : Reader.read {} (String.ofList (List.replicate n ' ')) = {} := by
    rw [Reader.read, String.toList_ofList]
    induction n with
    | zero => rfl
    | succ n ih => exact ih
  rw [shellWords, Reader.read_append, hn]
  rfl

end BuildScript.Text

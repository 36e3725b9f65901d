import BuildScript.Proofs.Shell.Veil

/-! # Trees that cannot be dumped

A dump holds half of a surrogate pair just if a text of the tree does, when its secrets are hidden. What
a dump writes around its texts is plain, and a text is escaped one character at a time.
-/

namespace BuildScript

namespace Text

def isHalf (c d : Char) : Bool := (surrogateCode? [c, d]).isSome

/-- Half of a surrogate pair stands somewhere among characters. -/
def holdsHalf : List Char → Bool
  | [] | [_] => false
  | c :: d :: rest => isHalf c d || holdsHalf (d :: rest)

theorem any_units (cs : List Char) :
    (units cs).any (fun u => (surrogateCode? u).isSome) = holdsHalf cs := by
  fun_induction units cs with
  | case1 | case2 => rfl
  | case3 c d rest h _ => rw [List.any_cons, h, holdsHalf, isHalf, h, Bool.true_or, Bool.true_or]
  | case4 c d rest h ih =>
    rw [List.any_cons, ih, holdsHalf, isHalf, Bool.eq_false_iff.mpr h]
    rfl

theorem hasSurrogate_eq (s : String) : hasSurrogate s = holdsHalf s.toList := any_units s.toList

/-- A character that is no part of a half. -/
def isPlain (c : Char) : Bool := c.toNat < 0x50000

variable {c d : Char} {cs ds : List Char}

theorem isHalf_of_plain_left (h : isPlain c = true) : isHalf c d = false := by
  have mark : c ≠ surrogateMark := fun hc => absurd h (hc ▸ by decide)
  rw [isHalf, surrogateCode?, if_neg fun hm => mark hm.1]
  rfl

theorem isHalf_of_plain_right (h : isPlain d = true) : isHalf c d = false := by
  have low : ¬(c = surrogateMark ∧ 0x5d800 ≤ d.toNat ∧ d.toNat < 0x5e000) := by
    rw [isPlain, decide_eq_true_eq] at h
    omega
  rw [isHalf, surrogateCode?, if_neg low]
  rfl

theorem holdsHalf_cons (c : Char) (cs : List Char) :
    holdsHalf (c :: cs) = (cs.head?.any (isHalf c) || holdsHalf cs) := by
  cases cs <;> rfl

theorem holdsHalf_cons_of_plain (h : isPlain c = true) : holdsHalf (c :: cs) = holdsHalf cs := by
  cases cs with
  | nil => rfl
  | cons d rest => rw [holdsHalf, isHalf_of_plain_left h, Bool.false_or]

theorem holdsHalf_append_of_plain {l : List Char} (h : l.all isPlain = true) :
    holdsHalf (l ++ ds) = holdsHalf ds := by
  induction l with
  | nil => rfl
  | cons c l ih =>
    obtain ⟨hc, hs⟩ := Bool.and_eq_true_iff.mp (List.all_cons.symm.trans h)
    rw [List.cons_append, holdsHalf_cons_of_plain hc, ih hs]

theorem holdsHalf_append_cons (h : isPlain d = true) :
    holdsHalf (cs ++ d :: ds) = (holdsHalf cs || holdsHalf ds) := by
  induction cs with
  | nil => exact holdsHalf_cons_of_plain h
  | cons c cs ih =>
    have first : (cs ++ d :: ds).head?.any (isHalf c) = cs.head?.any (isHalf c) := by
      cases cs with
      | nil => exact isHalf_of_plain_right h
      | cons => rfl
    rw [List.cons_append, holdsHalf_cons, holdsHalf_cons, ih, first, Bool.or_assoc]

end Text

namespace Shell

open Text

namespace Document

theorem isPlain_hexDigit : ∀ n < 16, isPlain (hexDigit n) = true := by decide

theorem escapeChar_cases (c : Char) :
    escapeChar c = [c] ∨
      isPlain c = true ∧ escapeChar c ≠ [] ∧ (escapeChar c).all isPlain = true := by
  fun_cases escapeChar c with
  | case1 h | case2 _ h | case3 _ _ h | case4 _ _ _ h | case5 _ _ _ _ h | case6 _ _ _ _ _ h
  | case7 _ _ _ _ _ _ h =>
    subst h
    exact .inr (by decide)
  | case8 _ _ _ _ _ _ _ h =>
    have control : isPlain c = true := decide_eq_true (Nat.lt_trans h (by decide))
    have high := isPlain_hexDigit (c.toNat / 16) (by omega)
    have low := isPlain_hexDigit (c.toNat % 16) (Nat.mod_lt _ (by decide))
    refine .inr ⟨control, List.cons_ne_nil _ _, ?_⟩
    simp only [List.all_cons, List.all_nil, high, low, Bool.and_true]
    rfl
  | case9 => exact .inl rfl

/-- What follows a character makes a half with it, or not, escaped or not. -/
theorem any_head?_escaped (c : Char) (cs : List Char) :
    (cs.flatMap escapeChar).head?.any (isHalf c) = cs.head?.any (isHalf c) := by
  cases cs with
  | nil => rfl
  | cons d rest =>
    rw [List.flatMap_cons]
    rcases escapeChar_cases d with he | ⟨hd, hn, plain⟩
    · rw [he]
      rfl
    · obtain ⟨e, es, he⟩ := List.exists_cons_of_ne_nil hn
      have first : isPlain e = true := List.all_eq_true.mp plain e (he ▸ List.mem_cons_self)
      rw [he]
      exact (isHalf_of_plain_right first).trans (isHalf_of_plain_right hd).symm

theorem holdsHalf_escaped (cs : List Char) : holdsHalf (cs.flatMap escapeChar) = holdsHalf cs := by
  induction cs with
  | nil => rfl
  | cons c cs ih =>
    rcases escapeChar_cases c with he | ⟨hc, -, plain⟩
    · have first := any_head?_escaped c cs
      rw [List.flatMap_cons, he, List.singleton_append, holdsHalf_cons, holdsHalf_cons, ih, first]
    · rw [List.flatMap_cons, holdsHalf_append_of_plain plain, ih, holdsHalf_cons_of_plain hc]

theorem holdsHalf_quoted (s : String) (back : List Char) :
    holdsHalf (quoted s ++ back) = (hasSurrogate s || holdsHalf back) := by
  have parts : quoted s ++ back = '"' :: (s.toList.flatMap escapeChar ++ ('"' :: back)) := by
    simp [quoted]
  rw [parts, holdsHalf_cons_of_plain (by decide), holdsHalf_append_cons (by decide),
    holdsHalf_escaped, hasSurrogate_eq]

mutual

def texts : Document → List String
  | .null | .flag _ => []
  | .text s => [s]
  | .list items => textsOf items
  | .record fields => textsOfFields fields

def textsOf : List Document → List String
  | [] => []
  | item :: rest => item.texts ++ textsOf rest

def textsOfFields : List (String × Document) → List String
  | [] => []
  | (name, value) :: rest => name :: (value.texts ++ textsOfFields rest)

end

theorem holdsHalf_lineBreak (depth : Nat) (back : List Char) :
    holdsHalf (lineBreak depth ++ back) = holdsHalf back := by
  refine holdsHalf_append_of_plain (List.all_eq_true.mpr fun c hc => ?_)
  rcases List.mem_cons.mp hc with rfl | hc
  · rfl
  · rw [List.eq_of_mem_replicate hc]
    rfl

mutual

theorem holdsHalf_chars (depth : Nat) (d : Document) (back : List Char) :
    holdsHalf (d.chars depth ++ back) = (d.texts.any hasSurrogate || holdsHalf back) := by
  cases d with
  | null => exact holdsHalf_append_of_plain (l := ['n', 'u', 'l', 'l']) (by decide)
  | flag b =>
    cases b with
    | true => exact holdsHalf_append_of_plain (l := ['t', 'r', 'u', 'e']) (by decide)
    | false => exact holdsHalf_append_of_plain (l := ['f', 'a', 'l', 's', 'e']) (by decide)
  | text s => rw [chars, holdsHalf_quoted, texts, List.any_cons, List.any_nil, Bool.or_false]
  | list items =>
    cases items with
    | nil => exact holdsHalf_append_of_plain (l := ['[', ']']) (by decide)
    | cons item rest =>
      simp only [chars, List.append_assoc, List.cons_append, List.nil_append]
      rw [holdsHalf_cons_of_plain (by decide), holdsHalf_lineBreak, holdsHalf_chars _ item,
        holdsHalf_moreItems _ rest, holdsHalf_lineBreak, holdsHalf_cons_of_plain (by decide), texts,
        textsOf, List.any_append, Bool.or_assoc]
  | record fields =>
    cases fields with
    | nil => exact holdsHalf_append_of_plain (l := ['\x7b', '\x7d']) (by decide)
    | cons field rest =>
      obtain ⟨name, value⟩ := field
      simp only [chars, List.append_assoc, List.cons_append, List.nil_append]
      rw [holdsHalf_cons_of_plain (by decide), holdsHalf_lineBreak, holdsHalf_quoted,
        holdsHalf_cons_of_plain (by decide), holdsHalf_cons_of_plain (by decide),
        holdsHalf_chars _ value, holdsHalf_moreFields _ rest, holdsHalf_lineBreak,
        holdsHalf_cons_of_plain (by decide), texts, textsOfFields, List.any_cons, List.any_append,
        Bool.or_assoc, Bool.or_assoc]

theorem holdsHalf_moreItems (depth : Nat) (items : List Document) (back : List Char) :
    holdsHalf (moreItems depth items ++ back) =
      ((textsOf items).any hasSurrogate || holdsHalf back) := by
  cases items with
  | nil => rfl
  | cons item rest =>
    simp only [moreItems, List.append_assoc, List.cons_append]
    rw [holdsHalf_cons_of_plain (by decide), holdsHalf_lineBreak, holdsHalf_chars _ item,
      holdsHalf_moreItems _ rest, textsOf, List.any_append, Bool.or_assoc]

theorem holdsHalf_moreFields (depth : Nat) (fields : List (String × Document))
    (back : List Char) : holdsHalf (moreFields depth fields ++ back) =
      ((textsOfFields fields).any hasSurrogate || holdsHalf back) := by
  cases fields with
  | nil => rfl
  | cons field rest =>
    obtain ⟨name, value⟩ := field
    simp only [moreFields, List.append_assoc, List.cons_append, List.nil_append]
    rw [holdsHalf_cons_of_plain (by decide), holdsHalf_lineBreak, holdsHalf_quoted,
      holdsHalf_cons_of_plain (by decide), holdsHalf_cons_of_plain (by decide),
      holdsHalf_chars _ value, holdsHalf_moreFields _ rest, textsOfFields, List.any_cons,
      List.any_append, Bool.or_assoc, Bool.or_assoc]

end

theorem hasSurrogate_render (d : Document) :
    hasSurrogate d.render = d.texts.any hasSurrogate := by
  have whole := holdsHalf_chars 0 d []
  rw [List.append_nil, holdsHalf, Bool.or_false] at whole
  rw [hasSurrogate_eq, render, String.toList_ofList, whole]

end Document

namespace Outline

mutual

def texts : Outline → List String
  | .command c => [c.text]
  | .assign e => [e.key, e.value]
  | .raw text => [text]
  | .conditional branches => textsOf branches
  | .branch test children => test.toList ++ textsOf children
  | .fold label children => label :: textsOf children
  | .script children => textsOf children

def textsOf : List Outline → List String
  | [] => []
  | o :: rest => o.texts ++ textsOf rest

end

def dumpNames : List String :=
  ["type", "text", "echo", "assert", "timing", "retry", "secure", "color", "key", "value",
    "branches", "test", "children", "label"] ++
    [Kind.command, .assign, .raw, .conditional, .branch, .fold, .script].map Kind.name ++
    Color.all.map Color.name

theorem hasSurrogate_dumpNames : ∀ name ∈ dumpNames, hasSurrogate name = false := by
  decide

theorem any_optionalText (s : Option String) :
    (optionalText s).texts.any hasSurrogate = s.toList.any hasSurrogate := by
  cases s <;> rfl

theorem any_color (c : Option Color) :
    (optionalText (c.map Color.name)).texts.any hasSurrogate = false := by
  cases c with
  | none => rfl
  | some color => cases color <;> decide

mutual

theorem any_texts_document (o : Outline) :
    o.document.texts.any hasSurrogate = o.texts.any hasSurrogate := by
  cases o with
  | command | assign | raw =>
    simp (disch := decide) only [document, Document.texts, Document.textsOfFields, texts,
      List.any_cons, List.any_append, List.any_nil, hasSurrogate_dumpNames, any_color, Bool.false_or,
      Bool.or_false]
  | conditional children | branch _ children | fold _ children | script children =>
    simp (disch := decide) only [document, Document.texts, Document.textsOfFields, texts,
      List.any_cons, List.any_append, List.any_nil, hasSurrogate_dumpNames, any_optionalText,
      Bool.false_or, Bool.or_false, any_textsOf_documents children]

theorem any_textsOf_documents (os : List Outline) :
    (Document.textsOf (documents os)).any hasSurrogate = (textsOf os).any hasSurrogate := by
  cases os with
  | nil => rfl
  | cons o rest =>
    rw [documents, Document.textsOf, textsOf, List.any_append, List.any_append,
      any_texts_document o, any_textsOf_documents rest]

end

/-- A tree can be dumped just if no text of it holds half of a surrogate pair, secrets hidden. -/
theorem hasSurrogate_dump (o : Outline) :
    hasSurrogate o.dump = o.redacted.texts.any hasSurrogate := by
  rw [dump, Document.hasSurrogate_render, any_texts_document]

theorem textsOf_append (os ps : List Outline) : textsOf (os ++ ps) = textsOf os ++ textsOf ps := by
  induction os with
  | nil => rfl
  | cons o rest ih => rw [List.cons_append, textsOf, textsOf, ih, List.append_assoc]

end Outline

/-- The texts that the dump of a script shows. -/
def shownTexts (s : Script) : List String := Outline.textsOf (veil s)

theorem hasSurrogate_dump_ofScript (s : Script) :
    hasSurrogate (Outline.ofScript s).dump = (shownTexts s).any hasSurrogate :=
  Outline.hasSurrogate_dump (.ofScript s)

theorem shownTexts_append (s t : Script) : shownTexts (s ++ t) = shownTexts s ++ shownTexts t := by
  rw [shownTexts, veil_append, Outline.textsOf_append, shownTexts, shownTexts]

end Shell

end BuildScript

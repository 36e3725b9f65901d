import BuildScript.Shell.Outline

/-! # Dumps

A dump tells the outline that it was made of, but for its secrets. Whatever follows what has been
written of a document, its first characters say of which kind the document is and where each of
its parts ends; and the kind of an outline and its fields are all in its document.
-/

namespace BuildScript.Shell

namespace Document

def digitValue (c : Char) : Nat := if c.isDigit then c.toNat - 48 else c.toNat - 87

theorem digitValue_hexDigit : ∀ n < 16, digitValue (hexDigit n) = n := by decide

def named (c : Char) : Char :=
  if c = 'b' then '\x08'
  else if c = 'f' then '\x0c'
  else if c = 'n' then '\n'
  else if c = 'r' then '\r'
  else if c = 't' then '\t'
  else c

/-- The first character of what stands in front of a double quote, and what is left. -/
def readChar? : List Char → Option (Char × List Char)
  | [] | '"' :: _ => none
  | '\\' :: 'u' :: _ :: _ :: high :: low :: rest =>
    some (Char.ofNat (16 * digitValue high + digitValue low), rest)
  | '\\' :: c :: rest => some (named c, rest)
  | c :: rest => some (c, rest)

theorem readChar?_escapeChar (c : Char) (rest : List Char) :
    readChar? (escapeChar c ++ rest) = some (c, rest) := by
  fun_cases escapeChar c with
  | case1 h | case2 _ h | case3 _ _ h | case4 _ _ _ h | case5 _ _ _ _ h | case6 _ _ _ _ _ h
  | case7 _ _ _ _ _ _ h =>
    subst h
    rfl
  | case8 =>
    have high := digitValue_hexDigit (c.toNat / 16) (by omega)
    have low := digitValue_hexDigit (c.toNat % 16) (Nat.mod_lt _ (by decide))
    have code : 16 * (c.toNat / 16) + c.toNat % 16 = c.toNat := Nat.div_add_mod _ _
    simp [readChar?, high, low, code]
  | case9 => simp_all [readChar?]

/-- No character is written with a double quote in front, so the first such quote is the end. -/
theorem escaped_append_inj {cs ds r s : List Char}
    (h : cs.flatMap escapeChar ++ '"' :: r = ds.flatMap escapeChar ++ '"' :: s) :
    cs = ds ∧ r = s := by
  have hr := congrArg readChar? h
  induction cs generalizing ds with
  | nil =>
    cases ds with
    | nil => simpa using h
    | cons d ds =>
      rw [List.flatMap_cons, List.append_assoc, readChar?_escapeChar] at hr
      cases hr
  | cons c cs ih =>
    cases ds with
    | nil =>
      rw [List.flatMap_cons, List.append_assoc, readChar?_escapeChar] at hr
      cases hr
    | cons d ds =>
      simp only [List.flatMap_cons, List.append_assoc, readChar?_escapeChar, Option.some.injEq,
        Prod.mk.injEq] at hr
      obtain ⟨rfl, ht⟩ := hr
      obtain ⟨rfl, rfl⟩ := ih ht (congrArg readChar? ht)
      exact ⟨rfl, rfl⟩

theorem quoted_append_inj {s t : String} {r u : List Char} (h : quoted s ++ r = quoted t ++ u) :
    s = t ∧ r = u := by
  have h : s.toList.flatMap escapeChar ++ '"' :: r = t.toList.flatMap escapeChar ++ '"' :: u := by
    simpa [quoted] using h
  obtain ⟨hs, hr⟩ := escaped_append_inj h
  exact ⟨String.toList_injective hs, hr⟩

mutual

theorem chars_append_inj (depth : Nat) (d e : Document) {r s : List Char}
    (h : d.chars depth ++ r = e.chars depth ++ s) : d = e ∧ r = s := by
  rcases d with _ | (_ | _) | text | (_ | ⟨d, ds⟩) | (_ | ⟨⟨name, d⟩, ds⟩) <;>
    rcases e with _ | (_ | _) | text' | (_ | ⟨e, es⟩) | (_ | ⟨⟨name', e⟩, es⟩) <;>
    simp only [chars, quoted, lineBreak, List.cons_append, List.nil_append, List.append_assoc,
      List.cons.injEq, Char.reduceEq, true_and, false_and, List.append_cancel_left_eq] at h
  case text.text =>
    obtain ⟨hs, rfl⟩ := escaped_append_inj h
    exact ⟨congrArg Document.text (String.toList_injective hs), rfl⟩
  case list.cons.list.cons =>
    obtain ⟨rfl, hd⟩ := chars_append_inj (depth + 1) d e h
    obtain ⟨rfl, hr⟩ := moreItems_append_inj (depth + 1) ds es hd
    exact ⟨rfl, by simpa using hr⟩
  case record.cons.record.cons =>
    obtain ⟨hn, hf⟩ := escaped_append_inj h
    obtain rfl := String.toList_injective hn
    obtain ⟨rfl, hd⟩ := chars_append_inj (depth + 1) d e (by simpa using hf)
    obtain ⟨rfl, hr⟩ := moreFields_append_inj (depth + 1) ds es hd
    exact ⟨rfl, by simpa using hr⟩
  all_goals exact ⟨rfl, h⟩

/-- The items of a list end where no comma follows. -/
theorem moreItems_append_inj (depth : Nat) (ds es : List Document) {r s : List Char}
    (h : moreItems depth ds ++ '\n' :: r = moreItems depth es ++ '\n' :: s) : ds = es ∧ r = s := by
  match ds, es with
  | [], [] => simpa [moreItems] using h
  | [], _ :: _ | _ :: _, [] => simp [moreItems] at h
  | d :: ds, e :: es =>
    have hd : d.chars depth ++ (moreItems depth ds ++ '\n' :: r) =
        e.chars depth ++ (moreItems depth es ++ '\n' :: s) := by
      simpa [moreItems] using h
    obtain ⟨rfl, ht⟩ := chars_append_inj depth d e hd
    obtain ⟨rfl, rfl⟩ := moreItems_append_inj depth ds es ht
    exact ⟨rfl, rfl⟩

theorem moreFields_append_inj (depth : Nat) (ds es : List (String × Document)) {r s : List Char}
    (h : moreFields depth ds ++ '\n' :: r = moreFields depth es ++ '\n' :: s) :
    ds = es ∧ r = s := by
  match ds, es with
  | [], [] => simpa [moreFields] using h
  | [], (_, _) :: _ | (_, _) :: _, [] => simp [moreFields] at h
  | (name, d) :: ds, (name', e) :: es =>
    have hn : quoted name ++ (':' :: ' ' :: (d.chars depth ++ (moreFields depth ds ++ '\n' :: r))) =
        quoted name' ++ (':' :: ' ' :: (e.chars depth ++ (moreFields depth es ++ '\n' :: s))) := by
      simpa [moreFields] using h
    obtain ⟨rfl, hd⟩ := quoted_append_inj hn
    obtain ⟨rfl, ht⟩ := chars_append_inj depth d e (by simpa using hd)
    obtain ⟨rfl, rfl⟩ := moreFields_append_inj depth ds es ht
    exact ⟨rfl, rfl⟩

end

theorem render_injective : Function.Injective render := by
  intro d e h
  have hc : d.chars 0 ++ [] = e.chars 0 ++ [] := by
    rw [List.append_nil, List.append_nil]
    exact String.ofList_injective h
  exact (chars_append_inj 0 d e hc).1

end Document

theorem Color.name_injective : Function.Injective Color.name := by
  intro c d h
  have hn := congrArg ofName? h
  simpa using hn

namespace Outline

theorem Kind.name_injective : Function.Injective Kind.name := by
  intro k l h
  cases k <;> cases l <;> first | rfl | exact absurd h (by decide)

theorem optionalText_injective : Function.Injective optionalText := by
  intro s t h
  cases s <;> cases t <;> cases h <;> rfl

def typeName? : Document → Option String
  | .record ((_, .text name) :: _) => some name
  | _ => none

theorem typeName?_document (o : Outline) : typeName? o.document = some o.kind.name := by
  cases o <;> rfl

theorem kind_eq_of_document {o p : Outline} (h : o.document = p.document) : o.kind = p.kind := by
  have hn := congrArg typeName? h
  rw [typeName?_document, typeName?_document] at hn
  exact Kind.name_injective (Option.some.inj hn)

mutual

theorem document_inj (o p : Outline) (h : o.document = p.document) : o = p := by
  have hk := kind_eq_of_document h
  cases o <;> cases p <;> simp only [kind, reduceCtorEq] at hk <;>
    simp only [document, Document.record.injEq, List.cons.injEq, Prod.mk.injEq,
      Document.text.injEq, Document.flag.injEq, Document.list.injEq, true_and, and_true] at h
  case command.command c d =>
    obtain ⟨text, echo, asserted, timing, retry, secure, color⟩ := c
    obtain ⟨htext, hecho, hasserted, htiming, hretry, hsecure, hcolor⟩ := h
    have hcolor := Option.map_injective Color.name_injective (optionalText_injective hcolor)
    subst htext hecho hasserted htiming hretry hsecure hcolor
    rfl
  case assign.assign e f =>
    obtain ⟨key, value, echo, secure⟩ := e
    obtain ⟨hkey, hvalue, hecho, hsecure⟩ := h
    subst hkey hvalue hecho hsecure
    rfl
  case raw.raw => rw [h]
  case conditional.conditional bs cs => rw [documents_inj bs cs h]
  case branch.branch test os test' ps =>
    rw [optionalText_injective h.1, documents_inj os ps h.2]
  case fold.fold label os label' ps => rw [h.1, documents_inj os ps h.2]
  case script.script os ps => rw [documents_inj os ps h]

theorem documents_inj (os ps : List Outline) (h : documents os = documents ps) : os = ps := by
  match os, ps with
  | [], [] => rfl
  | [], _ :: _ | _ :: _, [] => cases h
  | o :: os, p :: ps =>
    obtain ⟨ho, hs⟩ := List.cons.inj h
    rw [document_inj o p ho, documents_inj os ps hs]

end

/-- Two outlines have one dump just if they are the same once their secrets are hidden. -/
theorem dump_eq_iff (o p : Outline) : o.dump = p.dump ↔ o.redacted = p.redacted := by
  constructor
  · intro h
    exact document_inj _ _ (Document.render_injective h)
  · intro h
    rw [dump, dump, h]

end Outline

end BuildScript.Shell

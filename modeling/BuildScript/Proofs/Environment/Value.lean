import BuildScript.Proofs.Environment.Notation

/-! # Values in a line

What is read as a value, in front of whatever follows it. A value that ends by itself goes up to its
end; where there is none, the value is a bare word, which goes on as far as it can.
-/

namespace BuildScript.Environment

/-- Text between double quotes, in which a backslash takes along the character after it. -/
inductive IsQuotable : List Char → Prop
  | nil : IsQuotable []
  | escaped (c : Char) {text : List Char} (h : IsQuotable text) : IsQuotable ('\\' :: c :: text)
  | plain {c : Char} {text : List Char} (hq : c ≠ '"') (hs : c ≠ '\\') (h : IsQuotable text) :
    IsQuotable (c :: text)

/-- Values that end by themselves, and what follows them. The last double quote of a line ends a
value even after a backslash. -/
inductive Closed : List Char → List Char → Prop
  | doubleQuoted {text rest : List Char} (h : IsQuotable text) :
    Closed ('"' :: (text ++ ['"'])) rest
  | lastQuote {text rest : List Char} (h : IsQuotable text) (hr : '"' ∉ rest) :
    Closed ('"' :: (text ++ ['\\', '"'])) rest
  | singleQuoted {text rest : List Char} (h : '\'' ∉ text) : Closed ('\'' :: (text ++ ['\''])) rest
  | substitution {text rest : List Char} (h : ')' ∉ text) :
    Closed ('$' :: '(' :: (text ++ [')'])) rest

/-- The value that stands in front of the rest of a line. A bare word ends at a blank, at a quote or
with the line, and stands only where no value ends by itself. -/
inductive Stands : List Char → List Char → Prop
  | closed {v rest : List Char} (h : Closed v rest) : Stands v rest
  | bare {word rest : List Char} (hw : word.all isBareChar = true)
    (he : ∀ c ∈ rest.head?, isBareChar c = false)
    (hn : ∀ v after, Closed v after → word ++ rest ≠ v ++ after) : Stands word rest

theorem map_prepend_eq_some_iff {read : Option (List Char × List Char)} {cs v rest : List Char} :
    read.map (prepend cs) = some (v, rest) ↔ ∃ w, read = some (w, rest) ∧ v = cs ++ w := by
  rw [Option.map_eq_some_iff]
  constructor
  · rintro ⟨⟨w, after⟩, hw, he⟩
    cases he
    exact ⟨w, hw, rfl⟩
  · rintro ⟨w, hw, rfl⟩
    exact ⟨(w, rest), hw, rfl⟩

/-! ## Double quotes -/

theorem doubleQuoted_append {text : List Char} (h : IsQuotable text) (rest : List Char) :
    doubleQuoted (text ++ '"' :: rest) = some (text ++ ['"'], rest) := by
  induction h with
  | nil => rfl
  | escaped c h ih =>
    by_cases hc : c = '\n'
    · subst hc
      simp [doubleQuoted, ih, prepend]
    · simp [doubleQuoted, hc, ih, prepend]
  | plain hq hs h ih => simp [doubleQuoted, hs, ih, prepend]

theorem doubleQuoted_append_last {text rest : List Char} (h : IsQuotable text) (hr : '"' ∉ rest) :
    doubleQuoted (text ++ '\\' :: '"' :: rest) = some (text ++ ['\\', '"'], rest) := by
  induction h with
  | nil => simp [doubleQuoted, hr, prepend]
  | escaped c h ih =>
    by_cases hc : c = '\n'
    · subst hc
      simp [doubleQuoted, ih, prepend]
    · simp [doubleQuoted, hc, ih, prepend]
  | plain hq hs h ih => simp [doubleQuoted, hs, ih, prepend]

theorem of_doubleQuoted {cs v rest : List Char} (h : doubleQuoted cs = some (v, rest)) :
    cs = v ++ rest ∧ ∃ text, IsQuotable text ∧
      (v = text ++ ['"'] ∨ v = text ++ ['\\', '"'] ∧ '"' ∉ rest) := by
  fun_induction doubleQuoted cs generalizing v rest with
  | case1 => cases h
  | case2 more =>
    cases h
    exact ⟨rfl, [], .nil, .inl rfl⟩
  | case3 c more hc ih =>
    obtain ⟨w, hw, rfl⟩ := map_prepend_eq_some_iff.mp h
    obtain ⟨rfl, text, ht, hv⟩ := ih hw
    refine ⟨rfl, '\\' :: c :: text, .escaped c ht, ?_⟩
    rcases hv with rfl | ⟨rfl, hr⟩
    · exact .inl rfl
    · exact .inr ⟨rfl, hr⟩
  | case4 c more hc ih =>
    obtain ⟨w, hw, rfl⟩ := map_prepend_eq_some_iff.mp h
    obtain ⟨hm, text, ht, hv⟩ := ih hw
    refine ⟨congrArg (List.cons '\\') hm, ?_⟩
    have hq : '"' ∈ w := by rcases hv with rfl | ⟨rfl, -⟩ <;> simp
    by_cases hc' : c = '"'
    · -- the backslash does not keep the last quote from ending the value
      subst hc'
      obtain ⟨rfl, rfl⟩ : w = ['"'] ∧ rest = more := by simpa [doubleQuoted, eq_comm] using hw
      exact ⟨[], .nil, .inr ⟨rfl, fun hr => hc ⟨by decide, hr⟩⟩⟩
    · -- a quote follows, so that the character is a line feed, which is text in any case
      have hr : '"' ∈ more := by
        have := hm ▸ List.mem_append_left rest hq
        exact (List.mem_cons.mp this).resolve_left (Ne.symm hc')
      obtain rfl : c = '\n' := by
        by_contra hn
        exact hc ⟨hn, hr⟩
      cases ht with
      | nil => rcases hv with rfl | ⟨rfl, -⟩ <;> simp at hm
      | escaped => rcases hv with rfl | ⟨rfl, -⟩ <;> simp at hm
      | @plain d text _ _ ht =>
        obtain rfl : d = '\n' := by rcases hv with rfl | ⟨rfl, -⟩ <;> simp at hm <;> exact hm.1.symm
        exact ⟨'\\' :: '\n' :: text, .escaped _ ht, by rcases hv with rfl | ⟨rfl, hr⟩ <;> simp_all⟩
  | case5 c more hq hs ih =>
    obtain ⟨w, hw, rfl⟩ := map_prepend_eq_some_iff.mp h
    obtain ⟨rfl, text, ht, hv⟩ := ih hw
    have hc : c ≠ '\\' := by
      rintro rfl
      cases w with
      | nil => rcases hv with hv | ⟨hv, -⟩ <;> simp at hv
      | cons d w => exact hs d (w ++ rest) rfl rfl
    refine ⟨rfl, c :: text, .plain hq hc ht, ?_⟩
    rcases hv with rfl | ⟨rfl, hr⟩
    · exact .inl rfl
    · exact .inr ⟨rfl, hr⟩

/-! ## Values -/

theorem of_closedBy {close : Char} {cs v rest : List Char}
    (h : closedBy close cs = some (v, rest)) :
    cs = v ++ rest ∧ ∃ text, close ∉ text ∧ v = text ++ [close] := by
  induction cs generalizing v rest with
  | nil => cases h
  | cons c more ih =>
    rw [closedBy] at h
    split at h
    · next hc =>
      cases h
      exact ⟨rfl, [], List.not_mem_nil, by rw [hc]; rfl⟩
    · next hc =>
      obtain ⟨w, hw, rfl⟩ := map_prepend_eq_some_iff.mp h
      obtain ⟨rfl, text, ht, rfl⟩ := ih hw
      exact ⟨rfl, c :: text, by simp [Ne.symm hc, ht], rfl⟩

def closed? : List Char → Option (List Char × List Char)
  | '"' :: rest => (doubleQuoted rest).map (prepend ['"'])
  | '\'' :: rest => (closedBy '\'' rest).map (prepend ['\''])
  | '$' :: '(' :: rest => (closedBy ')' rest).map (prepend ['$', '('])
  | _ => none

theorem value_eq (cs : List Char) : value cs = (closed? cs).getD (bare cs) := rfl

theorem closed?_eq_some_iff {cs v rest : List Char} :
    closed? cs = some (v, rest) ↔ cs = v ++ rest ∧ Closed v rest := by
  constructor
  · intro h
    unfold closed? at h
    split at h
    · obtain ⟨w, hw, rfl⟩ := map_prepend_eq_some_iff.mp h
      obtain ⟨rfl, text, ht, rfl | ⟨rfl, hr⟩⟩ := of_doubleQuoted hw
      · exact ⟨rfl, .doubleQuoted ht⟩
      · exact ⟨rfl, .lastQuote ht hr⟩
    · obtain ⟨w, hw, rfl⟩ := map_prepend_eq_some_iff.mp h
      obtain ⟨rfl, text, ht, rfl⟩ := of_closedBy hw
      exact ⟨rfl, .singleQuoted ht⟩
    · obtain ⟨w, hw, rfl⟩ := map_prepend_eq_some_iff.mp h
      obtain ⟨rfl, text, ht, rfl⟩ := of_closedBy hw
      exact ⟨rfl, .substitution ht⟩
    · cases h
  · rintro ⟨rfl, h⟩
    cases h with
    | doubleQuoted ht => simp [closed?, doubleQuoted_append ht, prepend]
    | lastQuote ht hr => simp [closed?, doubleQuoted_append_last ht hr, prepend]
    | singleQuoted ht => simp [closed?, closedBy_append ht, prepend]
    | substitution ht => simp [closed?, closedBy_append ht, prepend]

theorem bare_eq_iff {cs word rest : List Char} :
    bare cs = (word, rest) ↔
      cs = word ++ rest ∧ word.all isBareChar = true ∧ ∀ c ∈ rest.head?, isBareChar c = false := by
  constructor
  · intro h
    obtain ⟨rfl, rfl⟩ := Prod.mk.inj h
    refine ⟨List.takeWhile_append_dropWhile.symm, List.all_takeWhile, fun c hc => ?_⟩
    have stop := List.head?_dropWhile_not isBareChar cs
    rw [hc] at stop
    exact stop
  · rintro ⟨rfl, hw, he⟩
    exact bare_append (List.all_eq_true.mp hw) he

/-- Exactly one value stands at a place, and it is the one that is read. -/
theorem value_eq_iff {cs v rest : List Char} :
    value cs = (v, rest) ↔ cs = v ++ rest ∧ Stands v rest := by
  rw [value_eq]
  cases hc : closed? cs with
  | some found =>
    obtain ⟨w, after⟩ := found
    obtain ⟨rfl, hw⟩ := closed?_eq_some_iff.mp hc
    constructor
    · rintro ⟨⟩
      exact ⟨rfl, .closed hw⟩
    · rintro ⟨he, hv⟩
      cases hv with
      | closed hv => exact Option.some.inj (hc.symm.trans (closed?_eq_some_iff.mpr ⟨he, hv⟩))
      | bare _ _ hn => exact absurd he.symm (hn w after hw)
  | none =>
    rw [Option.getD_none, bare_eq_iff]
    constructor
    · rintro ⟨rfl, hw, he⟩
      refine ⟨rfl, .bare hw he fun w after hv he => ?_⟩
      cases hc.symm.trans (closed?_eq_some_iff.mpr ⟨he, hv⟩)
    · rintro ⟨rfl, hv⟩
      cases hv with
      | closed hv => cases hc.symm.trans (closed?_eq_some_iff.mpr ⟨rfl, hv⟩)
      | bare hw he _ => exact ⟨rfl, hw, he⟩

end BuildScript.Environment

import BuildScript.Proofs.Environment.Value

/-! # Lines divided into assignments

Any line is a row of assignments with gaps between them, whatever it holds. The variables that are
read are those of the one such division: no gap holds an assignment, and no part of an assignment is
left in the gap before it.
-/

namespace BuildScript.Environment

/-! ## Divided lines -/

/-- What stands in front of a key, and whether it marks the variable as secure. -/
inductive IsMark : Bool → List Char → Prop
  | unmarked : IsMark false []
  | marked {gap : List Char} (hg : IsGap gap) : IsMark true (secureWord ++ gap)

/-- No identifier stands directly in front of an equals sign. -/
def Unassigned (gap : List Char) : Prop := ∀ key, IsKey key → ¬key ++ ['='] <:+: gap

/-- The gap does not end in what could be the beginning of a key, or in a mark. -/
structure Apart (gap : List Char) : Prop where
  key : ∀ s, s <:+ gap → ¬IsKey s
  mark : ∀ s, s <:+ gap → ¬IsMark true s

/-- A line is divided into gaps and variables, each written as a mark, a key and a value. -/
inductive Divided (secure : Bool) : List Variable → List Char → Prop
  | last {gap : List Char} (hg : Unassigned gap) : Divided secure [] gap
  | next {gap mark rest : List Char} {marked : Bool} {key value : String} {vs : List Variable}
    (hg : Unassigned gap) (ha : marked = false → Apart gap) (hm : IsMark marked mark)
    (hk : IsKey key.toList) (hv : Stands value.toList rest) (hr : Divided secure vs rest) :
    Divided secure (⟨key, value, secure || marked, true⟩ :: vs)
      (gap ++ (mark ++ (key.toList ++ '=' :: (value.toList ++ rest))))

/-! ## What begins at a place -/

theorem key?_eq_some_iff {cs key rest : List Char} :
    key? cs = some (key, rest) ↔
      cs = key ++ rest ∧ IsKey key ∧ ∀ c ∈ rest.head?, isKeyChar c = false := by
  constructor
  · intro h
    cases cs with
    | nil => cases h
    | cons c more =>
      rw [key?] at h
      split at h
      · next hc =>
        cases h
        refine ⟨?_, ⟨hc, List.all_takeWhile⟩, fun d hd => ?_⟩
        · rw [List.cons_append, List.takeWhile_append_dropWhile]
        · have stop := List.head?_dropWhile_not isKeyChar more
          rw [hd] at stop
          exact stop
      · cases h
  · rintro ⟨rfl, hk, hr⟩
    exact key?_append hk hr

theorem of_secureMark? {cs rest : List Char} (h : secureMark? cs = some rest) :
    ∃ gap, IsGap gap ∧ cs = secureWord ++ (gap ++ rest) ∧
      ∀ c ∈ rest.head?, Text.isBlank c = false := by
  unfold secureMark? at h
  split at h
  · next c more =>
    split at h
    · next hc =>
      cases h
      refine ⟨c :: more.takeWhile Text.isBlank, ⟨List.cons_ne_nil _ _, ?_⟩, ?_, fun d hd => ?_⟩
      · exact List.forall_mem_cons.mpr ⟨hc, List.all_eq_true.mp List.all_takeWhile⟩
      · rw [List.cons_append, List.takeWhile_append_dropWhile]
        rfl
      · have stop := List.head?_dropWhile_not Text.isBlank more
        rw [hd] at stop
        exact stop
    · cases h
  · cases h

theorem plain?_eq_some_iff {secure : Bool} {cs rest : List Char} {v : Variable} :
    plain? secure cs = some (v, rest) ↔ ∃ key value : String,
      IsKey key.toList ∧ Stands value.toList rest ∧ v = ⟨key, value, secure, true⟩ ∧
        cs = key.toList ++ '=' :: (value.toList ++ rest) := by
  constructor
  · intro h
    unfold plain? at h
    split at h
    · next key more hk =>
      cases hv : value more with
      | mk w after =>
        rw [hv] at h
        cases h
        obtain ⟨rfl, hk, -⟩ := key?_eq_some_iff.mp hk
        obtain ⟨rfl, hv⟩ := value_eq_iff.mp hv
        exact ⟨String.ofList key, String.ofList w, by rwa [String.toList_ofList],
          by rwa [String.toList_ofList], rfl, by simp only [String.toList_ofList]⟩
    · cases h
  · rintro ⟨key, v, hk, hv, rfl, rfl⟩
    rw [plain?, key?_append hk (not_isKeyChar_equals _)]
    simp [value_eq_iff.mpr ⟨rfl, hv⟩]

theorem assignment?_mark {marked : Bool} {mark rest : List Char} {key value : String}
    (hm : IsMark marked mark) (hk : IsKey key.toList) (hv : Stands value.toList rest)
    (secure : Bool) :
    assignment? secure (mark ++ (key.toList ++ '=' :: (value.toList ++ rest))) =
      some (⟨key, value, secure || marked, true⟩, rest) := by
  have hp (secure : Bool) : plain? secure (key.toList ++ '=' :: (value.toList ++ rest)) =
      some (⟨key, value, secure, true⟩, rest) :=
    plain?_eq_some_iff.mpr ⟨key, value, hk, hv, rfl, rfl⟩
  cases hm with
  | unmarked =>
    rw [List.nil_append, assignment?, secureMark?_key hk, Option.bind_none, Bool.or_false]
    exact hp secure
  | marked hg =>
    rw [List.append_assoc, assignment?, secureMark?_append hg hk, Option.bind_some, hp true,
      Bool.or_true]

theorem of_assignment?_eq_some {secure : Bool} {cs rest : List Char} {v : Variable}
    (h : assignment? secure cs = some (v, rest)) : ∃ marked mark, ∃ key value : String,
      IsMark marked mark ∧ IsKey key.toList ∧ Stands value.toList rest ∧
        v = ⟨key, value, secure || marked, true⟩ ∧
        cs = mark ++ (key.toList ++ '=' :: (value.toList ++ rest)) := by
  unfold assignment? at h
  split at h
  · next hf =>
    cases h
    obtain ⟨more, hm, hp⟩ := Option.bind_eq_some_iff.mp hf
    obtain ⟨gap, hg, rfl, -⟩ := of_secureMark? hm
    obtain ⟨key, value, hk, hv, rfl, rfl⟩ := plain?_eq_some_iff.mp hp
    refine ⟨true, _, key, value, .marked hg, hk, hv, ?_, ?_⟩
    · rw [Bool.or_true]
    · rw [List.append_assoc]
  · obtain ⟨key, value, hk, hv, rfl, rfl⟩ := plain?_eq_some_iff.mp h
    refine ⟨false, [], key, value, .unmarked, hk, hv, ?_, rfl⟩
    rw [Bool.or_false]

/-! ## Keys -/

theorem IsKey.append {s t : List Char} (hs : IsKey s) (ht : IsKey t) : IsKey (s ++ t) := by
  cases s with
  | nil => exact ht
  | cons c s =>
    cases t with
    | nil => exact ht.elim
    | cons d t => exact ⟨hs.1, by simp [hs.2, ht.2, isKeyChar_of_isKeyStart ht.1]⟩

theorem IsKey.of_append {s t : List Char} (h : IsKey (s ++ t)) (hn : s ≠ []) : IsKey s := by
  cases s with
  | nil => exact (hn rfl).elim
  | cons c s => exact ⟨h.1, (Bool.and_eq_true_iff.mp (List.all_append.symm.trans h.2)).1⟩

theorem IsKey.inj {s t rest after : List Char} (hs : IsKey s) (ht : IsKey t)
    (hr : ∀ c ∈ rest.head?, isKeyChar c = false) (ha : ∀ c ∈ after.head?, isKeyChar c = false)
    (h : s ++ rest = t ++ after) : s = t ∧ rest = after :=
  Prod.mk.inj (Option.some.inj ((key?_append hs hr).symm.trans (h ▸ key?_append ht ha)))

theorem IsGap.not_isKeyChar {gap : List Char} (h : IsGap gap) (rest : List Char) :
    ∀ c ∈ (gap ++ rest).head?, isKeyChar c = false :=
  fun c hc => isKeyChar_of_isBlank (h.ends rest c hc)

/-- A key that goes up to a mark does not end at an equals sign. -/
theorem IsKey.ne_marked {key gap : List Char} (hk : IsKey key) (hg : IsGap gap)
    {s : List Char} (hs : s = [] ∨ IsKey s) (rest more : List Char) :
    s ++ (secureWord ++ (gap ++ rest)) ≠ key ++ '=' :: more := by
  intro he
  have hw : IsKey (s ++ secureWord) := by
    rcases hs with rfl | hs
    · exact isKey_secureWord
    · exact hs.append isKey_secureWord
  rw [← List.append_assoc] at he
  obtain ⟨-, hr⟩ := hw.inj hk (hg.not_isKeyChar rest) (not_isKeyChar_equals more) he
  have hb := hg.ends rest '=' (hr ▸ rfl)
  cases hb

/-! ## Gaps -/

/-- No assignment begins in the gap, whatever of it is left. -/
def Passed (secure : Bool) (gap rest : List Char) : Prop :=
  ∀ s, s <:+ gap → s ≠ [] → assignment? secure (s ++ rest) = none

theorem assignment?_ne_none {marked : Bool} {mark key : List Char} (hm : IsMark marked mark)
    (hk : IsKey key) (secure : Bool) (rest : List Char) :
    assignment? secure (mark ++ (key ++ '=' :: rest)) ≠ none := by
  obtain ⟨v, after, hv⟩ : ∃ v after, value rest = (v, after) := ⟨_, _, rfl⟩
  obtain ⟨rfl, hv⟩ := value_eq_iff.mp hv
  have hk : IsKey (String.ofList key).toList := by rwa [String.toList_ofList]
  have hv : Stands (String.ofList v).toList after := by rwa [String.toList_ofList]
  have found := assignment?_mark hm hk hv secure
  simp only [String.toList_ofList] at found
  rw [found]
  exact Option.some_ne_none _

section

variable {secure : Bool} {gap rest : List Char}

theorem Passed.unassigned (h : Passed secure gap rest) : Unassigned gap := by
  rintro key hk ⟨a, b, rfl⟩
  refine assignment?_ne_none .unmarked hk secure (b ++ rest) ?_
  have hs : key ++ '=' :: b <:+ a ++ (key ++ ['=']) ++ b := ⟨a, by simp⟩
  simpa using h _ hs (by simp)

theorem Passed.apart {key : List Char} (h : Passed secure gap (key ++ '=' :: rest))
    (hk : IsKey key) : Apart gap where
  key s hs hi := by
    have hn : s ≠ [] := by
      rintro rfl
      exact hi
    refine assignment?_ne_none .unmarked (hi.append hk) secure rest ?_
    simpa using h s hs hn
  mark s hs hi := by
    have hn : s ≠ [] := by
      rintro rfl
      nomatch hi
    exact assignment?_ne_none hi hk secure rest (h s hs hn)

theorem scan_passed (h : Passed secure gap rest) :
    scan secure 0 (gap ++ rest) = scan secure 0 rest := by
  induction gap with
  | nil => rfl
  | cons c gap ih =>
    have hc : assignment? secure (c :: (gap ++ rest)) = none :=
      h _ List.suffix_rfl (List.cons_ne_nil c gap)
    rw [List.cons_append, scan, hc]
    exact ih fun s hs => h s (hs.trans (List.suffix_cons c gap))

theorem passed_of_ne (h : ∀ s marked mark key more, s <:+ gap → s ≠ [] → IsMark marked mark →
    IsKey key → s ++ rest ≠ mark ++ (key ++ '=' :: more)) : Passed secure gap rest := by
  intro s hs hn
  refine Option.eq_none_iff_forall_ne_some.mpr fun found hf => ?_
  obtain ⟨v, after⟩ := found
  obtain ⟨marked, mark, key, value, hm, hk, -, -, he⟩ := of_assignment?_eq_some hf
  exact h s marked mark key.toList _ hs hn hm hk he

/-- An assignment that begins in the gap does not end in it, so that all of what is left of the gap
is the beginning of the assignment. -/
theorem Unassigned.exists_append {s mark key more : List Char} (hg : Unassigned gap)
    (hs : s <:+ gap) (hk : IsKey key) (he : s ++ rest = mark ++ (key ++ '=' :: more)) :
    (∃ z, mark = s ++ z ∧ rest = z ++ (key ++ '=' :: more)) ∨
      ∃ t z, t <:+ gap ∧ t ≠ [] ∧ key = t ++ z ∧ rest = z ++ '=' :: more := by
  rcases List.append_eq_append_iff.mp he with hz | ⟨t, rfl, ht⟩
  · exact .inl hz
  have hs : t <:+ gap := (List.suffix_append mark t).trans hs
  rcases List.append_eq_append_iff.mp ht with ⟨z, rfl, hz⟩ | ⟨z, rfl, rfl⟩
  · cases z with
    | nil =>
      have hn : key ++ [] ≠ [] := by
        rintro hn
        rw [List.append_nil] at hn
        exact (hn ▸ hk : IsKey [])
      exact .inr ⟨_, [], hs, hn, by simp, hz.symm⟩
    | cons c z =>
      obtain ⟨rfl, -⟩ := List.cons.inj hz
      have hi : key ++ ['='] <:+: key ++ '=' :: z := ⟨[], z, by simp⟩
      exact absurd (hi.trans hs.isInfix) (hg key hk)
  · cases t with
    | nil => exact .inl ⟨[], by simp, rfl⟩
    | cons c t => exact .inr ⟨_, z, hs, List.cons_ne_nil c t, rfl, rfl⟩

/-- A mark that begins in the gap begins like a key, ends with the gap, or ends in blanks. -/
theorem IsMark.cases_append {s z blanks : List Char} (hn : s ≠ []) (hg : IsGap blanks)
    (h : secureWord ++ blanks = s ++ z) :
    IsKey s ∨ z = [] ∧ IsMark true s ∨ ∃ c ∈ z.head?, Text.isBlank c = true := by
  rcases List.append_eq_append_iff.mp h with ⟨t, rfl, rfl⟩ | ⟨t, hs, rfl⟩
  · cases z with
    | nil =>
      rw [List.append_nil] at hg
      exact .inr (.inl ⟨rfl, .marked hg⟩)
    | cons c z => exact .inr (.inr ⟨c, rfl, hg.blank c (by simp)⟩)
  · exact .inl ((hs ▸ isKey_secureWord : IsKey (s ++ t)).of_append hn)

theorem Unassigned.passed (hg : Unassigned gap) : Passed secure gap [] := by
  refine passed_of_ne fun s marked mark key more hs hn hm hk he => ?_
  rcases hg.exists_append hs hk he with ⟨z, -, hz⟩ | ⟨t, z, -, -, -, hz⟩ <;> simp at hz

theorem Unassigned.passed_key {key : List Char} (hg : Unassigned gap) (ha : Apart gap)
    (hk : IsKey key) (rest : List Char) : Passed secure gap (key ++ '=' :: rest) := by
  refine passed_of_ne fun s marked mark other more hs hn hm ho he => ?_
  rcases hg.exists_append hs ho he with ⟨z, hz, hr⟩ | ⟨t, z, ht, hn, rfl, -⟩
  · cases hm with
    | unmarked => exact hn (List.append_eq_nil_iff.mp hz.symm).1
    | marked hb =>
      rcases IsMark.cases_append hn hb hz with hi | ⟨-, hi⟩ | ⟨c, hc, hi⟩
      · exact ha.key s hs hi
      · exact ha.mark s hs hi
      · -- a key does not begin with a blank
        cases z with
        | nil => cases hc
        | cons d z =>
          cases hc
          cases key with
          | nil => exact hk
          | cons e key =>
            obtain ⟨rfl, -⟩ := List.cons.inj hr
            exact Bool.false_ne_true ((not_isKeyStart_of_isBlank hi).symm.trans hk.1)
  · exact ha.key t ht (ho.of_append hn)

theorem Unassigned.passed_marked {blanks : List Char} (hg : Unassigned gap) (hb : IsGap blanks)
    (rest : List Char) : Passed secure gap (secureWord ++ (blanks ++ rest)) := by
  refine passed_of_ne fun s marked mark key more hs hn hm hk he => ?_
  rcases hg.exists_append hs hk he with ⟨z, hz, hr⟩ | ⟨t, z, ht, hn, rfl, hr⟩
  · cases hm with
    | unmarked => exact hn (List.append_eq_nil_iff.mp hz.symm).1
    | marked ho =>
      rcases IsMark.cases_append hn ho hz with hi | ⟨rfl, -⟩ | ⟨c, hc, hi⟩
      · rw [List.append_assoc, ← List.append_assoc] at he
        obtain ⟨hw, -⟩ := (hi.append isKey_secureWord).inj isKey_secureWord (hb.not_isKeyChar rest)
          (ho.not_isKeyChar _) he
        exact hn (List.append_left_eq_self.mp hw)
      · exact hk.ne_marked hb (.inl rfl) rest more hr
      · cases z with
        | nil => cases hc
        | cons d z =>
          cases hc
          obtain ⟨rfl, -⟩ := List.cons.inj hr
          cases hi
  · exact hk.ne_marked hb (.inr (hk.of_append hn)) rest more (by rw [hr, List.append_assoc])

end

/-! ## Divisions -/

theorem scan_mark {secure marked : Bool} {mark rest : List Char} {key value : String}
    (hm : IsMark marked mark) (hk : IsKey key.toList) (hv : Stands value.toList rest) :
    scan secure 0 (mark ++ (key.toList ++ '=' :: (value.toList ++ rest))) =
      ⟨key, value, secure || marked, true⟩ :: scan secure 0 rest := by
  have found := assignment?_mark hm hk hv secure
  have ht : mark ++ (key.toList ++ '=' :: (value.toList ++ rest)) =
      (mark ++ (key.toList ++ '=' :: value.toList)) ++ rest := by
    simp only [List.append_assoc, List.cons_append]
  rw [ht] at found ⊢
  exact scan_append (by simp) found

theorem Divided.scan_eq {secure : Bool} {vs : List Variable} {cs : List Char}
    (h : Divided secure vs cs) : scan secure 0 cs = vs := by
  induction h with
  | @last gap hg =>
    have hp : Passed secure gap [] := hg.passed
    rw [← List.append_nil gap, scan_passed hp]
    rfl
  | @next gap mark rest marked key value vs hg ha hm hk hv _ ih =>
    have hp : Passed secure gap (mark ++ (key.toList ++ '=' :: (value.toList ++ rest))) := by
      cases hm with
      | unmarked => exact hg.passed_key (ha rfl) hk _
      | marked hb =>
        rw [List.append_assoc]
        exact hg.passed_marked hb _
    rw [scan_passed hp, scan_mark hm hk hv, ih]

/-- A scan goes on with a gap until an assignment begins, and then anew after the assignment. -/
theorem divided_scan (secure : Bool) : ∀ gap cs, Passed secure gap cs →
    Divided secure (scan secure 0 cs) (gap ++ cs)
  | gap, [], h => by
    rw [List.append_nil]
    exact .last h.unassigned
  | gap, c :: rest, h => by
    cases ha : assignment? secure (c :: rest) with
    | none =>
      have hp : Passed secure (gap ++ [c]) rest := by
        intro s hs hn
        rcases List.suffix_concat_iff.mp hs with rfl | ⟨t, rfl, ht⟩
        · exact absurd rfl hn
        · rw [List.append_assoc]
          cases t with
          | nil => exact ha
          | cons d t => exact h _ ht (List.cons_ne_nil d t)
      have hd := divided_scan secure (gap ++ [c]) rest hp
      rw [scan, ha]
      rwa [List.append_assoc] at hd
    | some found =>
      obtain ⟨v, after⟩ := found
      obtain ⟨marked, mark, key, value, hm, hk, hv, rfl, he⟩ := of_assignment?_eq_some ha
      have hl : after.length < (c :: rest).length := by
        rw [he]
        simp only [List.length_append, List.length_cons]
        omega
      have hd := divided_scan secure [] after fun s hs hn => absurd (List.suffix_nil.mp hs) hn
      rw [he] at h ⊢
      rw [scan_mark hm hk hv]
      refine .next h.unassigned ?_ hm hk hv hd
      rintro rfl
      cases hm
      exact h.apart hk
termination_by _ cs => cs.length
decreasing_by
  · exact Nat.lt_succ_self rest.length
  · exact hl

/-- The variables that are read from a line are those of its one division into assignments and
gaps. -/
theorem parse_eq_iff (line : String) (secure : Bool) (vs : List Variable) :
    parse line secure = vs ↔ Divided secure vs line.toList := by
  refine ⟨?_, Divided.scan_eq⟩
  rintro rfl
  exact divided_scan secure [] line.toList fun s hs hn => absurd (List.suffix_nil.mp hs) hn

end BuildScript.Environment

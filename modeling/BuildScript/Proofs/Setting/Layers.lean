import BuildScript.Proofs.Setting.AtPath

/-! # Layers of settings

Entries over entries are put together key by key: the lower ones stand in their order, each under
what the upper ones hold there, and the new ones follow. So a layer that is written twice counts
once, and of three layers any two that meet can be put together first, unless the middle one parts
two mappings.
-/

namespace BuildScript

namespace Setting

def under (s : Setting) : Option Setting → Setting
  | some t => overlaid (some s) t
  | none => s

end Setting

namespace Entries

variable {fs gs es : Entries} {k : Scalar} {v : Setting}

theorem exists_of_get? (h : get? es k = some v) : ∃ e ∈ es, e.1.sameKey k = true ∧ e.2 = v := by
  obtain ⟨e, he, hv⟩ := Option.map_eq_some_iff.mp h
  have hk := List.find?_some he
  exact ⟨e, List.mem_of_find?_eq_some he, hk, hv⟩

theorem Distinct.sameKey_tail {e f : Scalar × Setting} (h : Distinct (e :: es)) (hf : f ∈ es)
    (hk : e.1.sameKey k = true) : ¬f.1.sameKey k = true := by
  intro hs
  have hn := (List.pairwise_cons.mp h).1 f hf
  rw [Scalar.sameKey_trans hk (Scalar.sameKey_symm hs)] at hn
  cases hn

theorem Distinct.get?_tail_self (h : Distinct ((k, v) :: es)) : get? es k = none := by
  cases hg : get? es k with
  | none => rfl
  | some w =>
    obtain ⟨e, he, hk, -⟩ := exists_of_get? hg
    have hn := (List.pairwise_cons.mp h).1 e he
    rw [Scalar.sameKey_symm hk] at hn
    cases hn

theorem Distinct.get?_of_mem (h : es.Distinct) {e : Scalar × Setting} (he : e ∈ es)
    (hk : e.1.sameKey k = true) : get? es k = some e.2 := by
  induction es with
  | nil => cases he
  | cons f rest ih =>
    rw [get?_cons]
    rcases List.mem_cons.mp he with rfl | hm
    · rw [if_pos hk]
    · rw [if_neg fun hs => h.sameKey_tail hm hs hk, ih (List.pairwise_cons.mp h).2 hm]

theorem Distinct.overlay (h : fs.Distinct) (es : Entries) : (Setting.overlay fs es).Distinct := by
  induction es generalizing fs with
  | nil => exact h
  | cons e rest ih => exact ih (h.put _ _)

theorem Distinct.put_eq (h : es.Distinct) (k : Scalar) (v : Setting) :
    Entries.put es k v = es.map (fun e => (e.1, if e.1.sameKey k then v else e.2)) ++
      if (get? es k).isNone then [(k, v)] else [] := by
  induction es with
  | nil => rfl
  | cons e rest ih =>
    rw [Entries.put, get?_cons, List.map_cons]
    by_cases hk : e.1.sameKey k = true
    · have others : rest.map (fun f => (f.1, if f.1.sameKey k then v else f.2)) = rest := by
        refine (List.map_congr_left fun f hf => ?_).trans (List.map_id rest)
        rw [if_neg (h.sameKey_tail hf hk)]
        rfl
      rw [if_pos hk, if_pos hk, if_pos hk, others]
      exact (List.append_nil _).symm
    · rw [if_neg hk, if_neg hk, if_neg hk, ih (List.pairwise_cons.mp h).2, List.cons_append]

def besides (es base : Entries) : Entries := es.filter fun e => (get? base e.1).isNone

theorem Distinct.besides_put (h : Distinct ((k, v) :: es)) (w : Setting) :
    besides es (Entries.put fs k w) = besides es fs := by
  refine List.filter_congr fun e he => ?_
  have hk : ¬k.sameKey e.1 = true := Bool.eq_false_iff.mp ((List.pairwise_cons.mp h).1 e he)
  rw [get?_put, if_neg hk]

theorem Distinct.overlay_eq (hf : fs.Distinct) (he : es.Distinct) :
    Setting.overlay fs es = fs.map (fun e => (e.1, e.2.under (get? es e.1))) ++ besides es fs := by
  induction es generalizing fs with
  | nil => exact ((List.append_nil _).trans (List.map_id fs)).symm
  | cons e rest ih =>
    obtain ⟨k, v⟩ := e
    have fresh {j : Scalar} (hj : k.sameKey j = true) : get? rest j = none :=
      he.get?_tail_of_sameKey hj
    have below : fs.map (fun e => (e.1, (if e.1.sameKey k then Setting.overlaid (get? fs k) v
          else e.2).under (get? rest e.1))) =
        fs.map fun e => (e.1, e.2.under (get? ((k, v) :: rest) e.1)) := by
      refine List.map_congr_left fun e hm => ?_
      rw [get?_cons]
      by_cases hk : e.1.sameKey k = true
      · have hs := Scalar.sameKey_symm hk
        rw [if_pos hk, if_pos hs, fresh hs, hf.get?_of_mem hm hk]
        rfl
      · rw [if_neg hk, if_neg fun hs => hk (Scalar.sameKey_symm hs)]
    have new : (if (get? fs k).isNone then [(k, Setting.overlaid (get? fs k) v)] else []).map
          (fun e => (e.1, e.2.under (get? rest e.1))) =
        if (get? fs k).isNone then [(k, v)] else [] := by
      cases hk : get? fs k with
      | some s => rfl
      | none =>
        simp [SameBut.overlaid_none, he.get?_tail_self, Setting.under]
    rw [Setting.overlay, ih (hf.put _ _) (List.pairwise_cons.mp he).2, he.besides_put, hf.put_eq,
      List.map_append, List.map_map, List.append_assoc, new]
    refine (congrArg (· ++ _) below).trans (congrArg _ ?_)
    unfold besides
    rw [List.filter_cons]
    split <;> rfl

theorem Distinct.overlay_nil (h : es.Distinct) : Setting.overlay [] es = es := by
  rw [Distinct.overlay_eq .nil h, List.map_nil, List.nil_append]
  exact List.filter_eq_self.mpr fun _ _ => rfl

theorem Distinct.isNone_get?_overlay (h : es.Distinct) (fs : Entries) (k : Scalar) :
    (get? (Setting.overlay fs es) k).isNone = ((get? es k).isNone && (get? fs k).isNone) := by
  rw [h.get?_overlay_key]
  cases get? es k <;> rfl

/-- Three layers, where those that meet can be put together in either order. -/
theorem Distinct.overlay_overlay (hf : fs.Distinct) (hg : gs.Distinct) (he : es.Distinct)
    (meet : ∀ e ∈ fs, ∀ t u, get? gs e.1 = some t → get? es e.1 = some u →
      Setting.overlaid (some (Setting.overlaid (some e.2) t)) u =
        Setting.overlaid (some e.2) (Setting.overlaid (some t) u)) :
    Setting.overlay (Setting.overlay fs gs) es = Setting.overlay fs (Setting.overlay gs es) := by
  have lowest : fs.map (fun e => (e.1, (e.2.under (get? gs e.1)).under (get? es e.1))) =
      fs.map fun e => (e.1, e.2.under (get? (Setting.overlay gs es) e.1)) := by
    refine List.map_congr_left fun e hm => ?_
    rw [he.get?_overlay_key]
    have meet := meet e hm
    cases ht : get? gs e.1 with
    | none =>
      cases get? es e.1 with
      | none => rfl
      | some u => simp [Setting.under, SameBut.overlaid_none]
    | some t =>
      cases hu : get? es e.1 with
      | none => rfl
      | some u => exact congrArg (Prod.mk e.1) (meet t u ht hu)
  have middle : besides (gs.map fun e => (e.1, e.2.under (get? es e.1))) fs =
      (besides gs fs).map fun e => (e.1, e.2.under (get? es e.1)) := List.filter_map
  have highest : besides es (Setting.overlay fs gs) = besides (besides es gs) fs := by
    unfold besides
    rw [List.filter_filter]
    refine List.filter_congr fun e _ => ?_
    rw [hg.isNone_get?_overlay, Bool.and_comm]
  calc Setting.overlay (Setting.overlay fs gs) es
      = (Setting.overlay fs gs).map (fun e => (e.1, e.2.under (get? es e.1))) ++
          besides es (Setting.overlay fs gs) := (hf.overlay gs).overlay_eq he
    _ = fs.map (fun e => (e.1, (e.2.under (get? gs e.1)).under (get? es e.1))) ++
          ((besides gs fs).map (fun e => (e.1, e.2.under (get? es e.1))) ++
            besides (besides es gs) fs) := by
      rw [highest, hf.overlay_eq hg, List.map_append, List.map_map, List.append_assoc]
      rfl
    _ = fs.map (fun e => (e.1, e.2.under (get? (Setting.overlay gs es) e.1))) ++
          besides (Setting.overlay gs es) fs := by
      rw [lowest, hg.overlay_eq he]
      unfold besides at middle ⊢
      rw [List.filter_append, middle]
    _ = Setting.overlay fs (Setting.overlay gs es) := (hf.overlay_eq (hg.overlay es)).symm

theorem Distinct.overlay_absorbs (hf : fs.Distinct) (he : es.Distinct)
    (named : ∀ e ∈ es, e.1.isNaN = false)
    (again : ∀ e ∈ es, ∀ below : Option Setting, (∀ b ∈ below, ∃ f ∈ fs, f.2 = b) →
      Setting.overlaid (some (Setting.overlaid below e.2)) e.2 = Setting.overlaid below e.2) :
    Setting.overlay (Setting.overlay fs es) es = Setting.overlay fs es := by
  have found {e : Scalar × Setting} (hm : e ∈ es) : get? es e.1 = some e.2 :=
    he.get?_of_mem hm (Scalar.sameKey_self (named e hm))
  have kept : (Setting.overlay fs es).map (fun e => (e.1, e.2.under (get? es e.1))) =
      Setting.overlay fs es := by
    refine (List.map_congr_left fun e hm => ?_).trans (List.map_id _)
    rw [hf.overlay_eq he] at hm
    rcases List.mem_append.mp hm with hm | hm
    · obtain ⟨f, hfm, rfl⟩ := List.mem_map.mp hm
      cases hu : get? es f.1 with
      | none => rfl
      | some u =>
        obtain ⟨g, hg, -, rfl⟩ := exists_of_get? hu
        exact congrArg (Prod.mk f.1) (again g hg (some f.2) fun b hb => ⟨f, hfm, Option.some.inj hb⟩)
    · have hs := (List.mem_filter.mp hm).1
      rw [found hs]
      have once := again e hs none nofun
      rw [SameBut.overlaid_none] at once
      exact congrArg (Prod.mk e.1) once
  have new : besides es (Setting.overlay fs es) = [] := by
    refine List.filter_eq_nil_iff.mpr fun e hm => ?_
    rw [he.isNone_get?_overlay, found hm]
    exact Bool.false_ne_true
  rw [(hf.overlay es).overlay_eq he, kept, new, List.append_nil]

end Entries

namespace Setting

variable {s t u : Setting} {fs gs es : Entries}

/-- Along no path does the middle setting hold anything else between two mappings. -/
def Joins (s t u : Setting) : Prop :=
  ∀ p fs es m, s.at? p = some (.mapping fs) → u.at? p = some (.mapping es) → t.at? p = some m →
    m.isMapping = true

/-- Along no path is a NaN a key. -/
def Named (s : Setting) : Prop :=
  ∀ p es, s.at? p = some (.mapping es) → ∀ e ∈ es, e.1.isNaN = false

theorem Joins.child (h : Joins s t u) {k : Scalar} {s' t' u' : Setting}
    (hs : s.child? k = some s') (ht : t.child? k = some t') (hu : u.child? k = some u') :
    Joins s' t' u' := by
  intro p fs es m hf he hm
  refine h (k :: p) fs es m ?_ ?_ ?_
  · rw [at?, hs]
    exact hf
  · rw [at?, hu]
    exact he
  · rw [at?, ht]
    exact hm

theorem Named.child (h : Named s) {k : Scalar} {c : Setting} (hc : s.child? k = some c) :
    Named c := by
  intro p es he
  refine h (k :: p) es ?_
  rw [at?, hc]
  exact he

/-- Two layers over a setting, put together in either order. The induction is on the upper one. -/
theorem overlaid_overlaid (hu : u.Keyed) (hs : s.Keyed) (ht : t.Keyed) (h : Joins s t u) :
    overlaid (some (overlaid (some s) t)) u = overlaid (some s) (overlaid (some t) u) := by
  induction hu generalizing s t with
  | scalar | list => rfl
  | @mapping es hd hk ih =>
    cases ht with
    | scalar | list =>
      cases hs with
      | scalar | list => rfl
      | mapping => cases h [] _ _ _ rfl rfl rfl
    | @mapping gs hg hgs =>
      cases hs with
      | scalar | list => rfl
      | @mapping fs hf hfs =>
        refine congrArg Setting.mapping (hf.overlay_overlay hg hd fun e he t u ht hu => ?_)
        obtain ⟨g, hm, hs, rfl⟩ := Entries.exists_of_get? ht
        obtain ⟨f, hn, -, rfl⟩ := Entries.exists_of_get? hu
        have found := hf.get?_of_mem he (Scalar.sameKey_trans (Scalar.sameKey_symm hs) hs)
        exact ih f hn (hfs e he) (hgs g hm) (h.child found ht hu)

theorem overlaid_absorbs (ht : t.Keyed) (hn : t.Named) {below : Option Setting}
    (hb : ∀ b ∈ below, b.Keyed) :
    overlaid (some (overlaid below t)) t = overlaid below t := by
  induction ht generalizing below with
  | scalar | list => rfl
  | @mapping es hd hk ih =>
    have named : ∀ e ∈ es, e.1.isNaN = false := hn [] es rfl
    have absorbs (fs : Entries) (hf : (mapping fs).Keyed) :
        overlay (overlay fs es) es = overlay fs es := by
      obtain - | - | ⟨hf, hfs⟩ := hf
      refine hf.overlay_absorbs hd named fun e he below hb => ?_
      have found : (mapping es).child? e.1 = some e.2 :=
        hd.get?_of_mem he (Scalar.sameKey_self (named e he))
      refine ih e he (hn.child found) fun b hm => ?_
      obtain ⟨f, hfm, rfl⟩ := hb b hm
      exact hfs f hfm
    have alone : overlay es es = es := by
      have base := absorbs [] (.mapping .nil nofun)
      rwa [hd.overlay_nil] at base
    match below, hb with
    | none, _ | some (.scalar _), _ | some (.list _), _ => exact congrArg mapping alone
    | some (.mapping fs), hb => exact congrArg mapping (absorbs fs (hb _ rfl))

end Setting

end BuildScript

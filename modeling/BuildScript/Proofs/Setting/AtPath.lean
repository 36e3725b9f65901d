import BuildScript.Proofs.Setting.Keys

/-! # Settings along paths

A path of keys leads through nested mappings. What an overlay holds at a path is told by the longest
part of the path that leads somewhere in the upper settings: there they replace what is below them,
unless two mappings meet, and past it the lower settings show through a mapping alone.
-/

namespace BuildScript.Setting

def child? : Setting → Scalar → Option Setting
  | .mapping es, k => Entries.get? es k
  | .list _, _ | .scalar _, _ => none

def at? (s : Setting) : List Scalar → Option Setting
  | [] => some s
  | k :: rest => (s.child? k).bind fun c => c.at? rest

/-- In mappings that are reached through mappings no key stands twice, as it is with entries that
are put one after another. -/
inductive Keyed : Setting → Prop
  | scalar (s : Scalar) : Keyed (.scalar s)
  | list (items : List Setting) : Keyed (.list items)
  | mapping {es : Entries} (hd : es.Distinct) (h : ∀ e ∈ es, Keyed e.2) : Keyed (.mapping es)

theorem Keyed.distinct {es : Entries} (h : (Setting.mapping es).Keyed) : es.Distinct := by
  cases h with
  | mapping hd => exact hd

theorem Keyed.child {s c : Setting} {k : Scalar} (h : s.Keyed) (hc : s.child? k = some c) :
    c.Keyed := by
  cases h with
  | scalar | list => cases hc
  | mapping _ h =>
    obtain ⟨e, he, rfl⟩ := Option.map_eq_some_iff.mp hc
    exact h e (List.mem_of_find?_eq_some he)

theorem Keyed.put {es : Entries} {v : Setting} (h : (Setting.mapping es).Keyed) (k : Scalar)
    (hv : v.Keyed) : (Setting.mapping (Entries.put es k v)).Keyed := by
  obtain - | - | ⟨hd, h⟩ := h
  refine .mapping (hd.put k v) ?_
  clear hd
  induction es with
  | nil => exact List.forall_mem_singleton.mpr hv
  | cons e rest ih =>
    obtain ⟨he, hr⟩ := List.forall_mem_cons.mp h
    unfold Entries.put
    split
    · exact List.forall_mem_cons.mpr ⟨hv, hr⟩
    · exact List.forall_mem_cons.mpr ⟨he, ih hr⟩

theorem Keyed.empty : (Setting.mapping []).Keyed :=
  .mapping .nil (List.forall_mem_nil _)

theorem Keyed.single (k : Scalar) {v : Setting} (hv : v.Keyed) :
    (Setting.mapping [(k, v)]).Keyed :=
  Keyed.empty.put k hv

theorem keyed_ofList {pairs : List (Scalar × Setting)} (h : ∀ e ∈ pairs, e.2.Keyed) :
    (mapping (Entries.ofList pairs)).Keyed := by
  have from_any : ∀ es : Entries, (mapping es).Keyed →
      (mapping (pairs.foldl (fun entries e => Entries.put entries e.1 e.2) es)).Keyed := by
    induction pairs with
    | nil => exact fun _ he => he
    | cons e rest ih =>
      obtain ⟨he, hr⟩ := List.forall_mem_cons.mp h
      exact fun es hes => ih hr _ (hes.put e.1 he)
  exact from_any [] .empty

theorem Keyed.overlaid {s : Setting} (hs : s.Keyed) {below : Option Setting}
    (hb : ∀ b ∈ below, b.Keyed) : (overlaid below s).Keyed := by
  induction hs generalizing below with
  | scalar s => exact .scalar s
  | list items => exact .list items
  | @mapping es hd h ih =>
    match below, hb with
    | none, _ | some (.scalar _), _ | some (.list _), _ => exact .mapping hd h
    | some (.mapping fs), hb =>
      have hf := hb _ rfl
      change (Setting.mapping (overlay fs es)).Keyed
      clear hd h hb
      induction es generalizing fs with
      | nil => exact hf
      | cons e rest ihr =>
        obtain ⟨he, hr⟩ := List.forall_mem_cons.mp ih
        exact ihr hr _ (hf.put e.1 (he fun b hb => hf.child hb))

/-- Where an upper setting is written over one that may be there, the children are written over each
other, and those of the lower one show through a mapping. -/
theorem child?_overlaid {s : Setting} (h : s.Keyed) (below : Option Setting) (k : Scalar) :
    (overlaid below s).child? k = match s.child? k with
      | some c => some (overlaid (below.bind fun b => b.child? k) c)
      | none => if s.isMapping then below.bind fun b => b.child? k else none := by
  cases h with
  | scalar | list => rfl
  | @mapping es hd h =>
    have alone : Entries.get? es k = match Entries.get? es k with
        | some c => some (overlaid none c)
        | none => none := by
      split <;> simp [*, Entries.SameBut.overlaid_none]
    match below with
    | some (.mapping fs) => exact hd.get?_overlay_key fs k
    | none | some (.scalar _) | some (.list _) => exact alone

/-- The longest part of a path, from its beginning, that leads somewhere. -/
structure Longest (f : List Scalar → Option Setting) (p q : List Scalar) : Prop where
  begins : q <+: p
  leads : (f q).isSome
  longest : ∀ r, r <+: p → (f r).isSome → r <+: q

theorem Longest.nil {f : List Scalar → Option Setting} (h : (f []).isSome) : Longest f [] [] :=
  ⟨List.prefix_rfl, h, fun _ hr _ => hr⟩

theorem Longest.stop {s : Setting} {k : Scalar} {p : List Scalar} (h : s.child? k = none) :
    Longest s.at? (k :: p) [] := by
  refine ⟨List.nil_prefix, rfl, fun r hr hs => ?_⟩
  cases r with
  | nil => exact List.prefix_rfl
  | cons j r =>
    obtain ⟨rfl, -⟩ := List.cons_prefix_cons.mp hr
    simp [at?, h] at hs

theorem Longest.cons {s c : Setting} {k : Scalar} {p q : List Scalar} (h : s.child? k = some c)
    (hq : Longest c.at? p q) : Longest s.at? (k :: p) (k :: q) := by
  have hc (r : List Scalar) : s.at? (k :: r) = c.at? r := by rw [at?, h, Option.bind_some]
  refine ⟨List.cons_prefix_cons.mpr ⟨rfl, hq.begins⟩, by rw [hc]; exact hq.leads, fun r hr hs => ?_⟩
  cases r with
  | nil => exact List.nil_prefix
  | cons j r =>
    obtain ⟨rfl, hp⟩ := List.cons_prefix_cons.mp hr
    rw [hc] at hs
    exact List.cons_prefix_cons.mpr ⟨rfl, hq.longest r hp hs⟩

theorem Longest.unique {f : List Scalar → Option Setting} {p q r : List Scalar}
    (hq : Longest f p q) (hr : Longest f p r) : q = r :=
  (hr.longest q hq.begins hq.leads).eq_of_length_le
    (hq.longest r hr.begins hr.leads).length_le

/-- What stands at a path `p` where the upper settings lead as far as `q`. -/
structure MergedAt (below above merged : List Scalar → Option Setting) (p q : List Scalar) :
    Prop where
  /-- Where two mappings meet, the lower keys stay where they are and the new ones follow. -/
  both : q = p → ∀ fs es, below p = some (.mapping fs) → above p = some (.mapping es) →
    ∃ ms, merged p = some (.mapping ms) ∧
      ms.map Prod.fst = fs.map Prod.fst ++ Entries.added fs es
  replaced : q = p → (∀ fs es, below p = some (.mapping fs) → above p ≠ some (.mapping es)) →
    merged p = above p
  shown : q ≠ p → ∀ es, above q = some (.mapping es) → merged p = below p
  hidden : q ≠ p → (∀ es, above q ≠ some (.mapping es)) → merged p = none

theorem MergedAt.cons {below above merged below' above' merged' : List Scalar → Option Setting}
    {k : Scalar} {p q : List Scalar} (hb : ∀ r, below (k :: r) = below' r)
    (ha : ∀ r, above (k :: r) = above' r) (hm : ∀ r, merged (k :: r) = merged' r)
    (h : MergedAt below' above' merged' p q) : MergedAt below above merged (k :: p) (k :: q) := by
  have tail : k :: q ≠ k :: p → q ≠ p := fun hn he => hn (congrArg _ he)
  constructor
  · intro he
    rw [hb, ha, hm]
    exact h.both (List.cons.inj he).2
  · intro he
    rw [hb, ha, hm]
    exact h.replaced (List.cons.inj he).2
  · intro hn
    rw [hb, ha, hm]
    exact h.shown (tail hn)
  · intro hn
    rw [ha, hm]
    exact h.hidden (tail hn)

theorem MergedAt.nil {s : Setting} (hs : s.Keyed) (below : Option Setting) :
    MergedAt (fun r => below.bind fun b => b.at? r) s.at? (overlaid below s).at? [] [] := by
  refine ⟨fun _ fs es hb ha => ?_, fun _ hn => ?_, fun hn => absurd rfl hn, fun hn => absurd rfl hn⟩
  · obtain ⟨b, rfl, hb⟩ := Option.bind_eq_some_iff.mp hb
    cases hb
    cases ha
    cases hs with
    | mapping hd _ => exact ⟨_, rfl, hd.keys_overlay fs⟩
  · cases s with
    | scalar | list => rfl
    | mapping es =>
      match below with
      | some (.mapping fs) => exact absurd rfl (hn fs es rfl)
      | none | some (.scalar _) | some (.list _) => rfl

/-- An upper setting over one that may be there, at every path. The induction is on the path: its
first key leads to children that are written over each other, or nowhere in the upper setting. -/
theorem exists_mergedAt {s : Setting} (hs : s.Keyed) (below : Option Setting) (p : List Scalar) :
    ∃ q, Longest s.at? p q ∧
      MergedAt (fun r => below.bind fun b => b.at? r) s.at? (overlaid below s).at? p q := by
  induction p generalizing s below with
  | nil => exact ⟨[], .nil rfl, .nil hs below⟩
  | cons k p ih =>
    have step := child?_overlaid hs below k
    cases hc : s.child? k with
    | none =>
      rw [hc] at step
      refine ⟨[], .stop hc, nofun, nofun, fun _ es ha => ?_, fun _ hn => ?_⟩
      · cases ha
        rw [at?, step]
        exact Option.bind_assoc _ _ _
      · have hf : s.isMapping = false := by
          cases s with
          | scalar | list => rfl
          | mapping es => exact absurd rfl (hn es)
        rw [at?, step, hf]
        rfl
    | some c =>
      rw [hc] at step
      obtain ⟨q, hq, hm⟩ := ih (hs.child hc) (below.bind fun b => b.child? k)
      refine ⟨k :: q, hq.cons hc, .cons (fun r => ?_) (fun r => ?_) (fun r => ?_) hm⟩
      · exact (Option.bind_assoc ..).symm
      · rw [at?, hc, Option.bind_some]
      · rw [at?, step, Option.bind_some]

/-- The keys of an overlay in their order, and what it holds at every path. -/
theorem overlay_at_path (below : Entries) {above : Entries} (ha : (mapping above).Keyed) :
    (overlay below above).map Prod.fst = below.map Prod.fst ++ Entries.added below above ∧
    ∀ p, ∃ q, Longest (mapping above).at? p q ∧
      MergedAt (mapping below).at? (mapping above).at?
        (mapping (overlay below above)).at? p q := by
  constructor
  · cases ha with
    | mapping hd _ => exact hd.keys_overlay below
  · exact exists_mergedAt ha (some (.mapping below))

/-- Two mappings meet under one key, and the lower one shows through. -/
theorem overlay_at_path_git :
    let below : Entries := [(.text "git", .mapping [(.text "depth", .int 50),
      (.text "submodules", .bool true)]), (.text "compiler", .text "gcc")]
    let above : Entries := [(.text "git", .mapping [(.text "depth", .int 1)]),
      (.text "script", .list [.text "make"])]
    (overlay below above).map Prod.fst = [.text "git", .text "compiler", .text "script"] ∧
      (mapping (overlay below above)).at? [.text "git", .text "submodules"] =
        some (.bool true) := by
  intro below above
  have git : (mapping [(.text "depth", .int 1)]).Keyed := .single _ (.scalar _)
  have keyed : (mapping above).Keyed := (Keyed.single (.text "git") git).put (.text "script") (.list _)
  obtain ⟨hk, hp⟩ := overlay_at_path below keyed
  obtain ⟨q, hq, hm⟩ := hp [.text "git", .text "submodules"]
  have longest : q = [.text "git"] := hq.unique (.cons rfl (.stop rfl))
  subst longest
  exact ⟨hk.trans (by decide), hm.shown (by decide) _ rfl⟩

end BuildScript.Setting

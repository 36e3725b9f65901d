import BuildScript.Draft
import BuildScript.Proofs.Shell.Extension

/-! # Writing to any draft

An action that writes does the same on every draft that is not finished: it puts the same nodes at
the end of the innermost open block and the same notices at the end of the journal. Writing actions
compose, and a block around a writing action writes one node.
-/

namespace BuildScript.Drafting

open Shell

variable {α β : Type}

theorem pure_apply (a : α) (d : Draft) : (Pure.pure a : Drafting α) d = (.ok a, d) := rfl

theorem bind_ok {x : Drafting α} {f : α → Drafting β} {d d' : Draft} {a : α}
    (h : x d = (.ok a, d')) : (x >>= f) d = f a d' := by
  simp only [bind, ExceptT.bind, ExceptT.mk, StateT.bind, h]
  rfl

theorem bind_error {x : Drafting α} {f : α → Drafting β} {d d' : Draft} {e : Draft.Fault}
    (h : x d = (.error e, d')) : (x >>= f) d = (.error e, d') := by
  simp only [bind, ExceptT.bind, ExceptT.mk, StateT.bind, h]
  rfl

/-- Where a run over a list fails, the actions before have succeeded and none has run after. -/
theorem cut_of_forM_error {γ : Type} {g : γ → Drafting Unit} {l : List γ} {d d' : Draft}
    {f : Draft.Fault} (h : l.forM g d = (.error f, d')) :
    ∃ before a after e, l = before ++ a :: after ∧ before.forM g d = (.ok (), e) ∧
      g a e = (.error f, d') := by
  induction l generalizing d with
  | nil => cases h
  | cons a rest ih =>
    change (g a >>= fun _ => rest.forM g) d = _ at h
    cases ha : g a d with
    | mk result e =>
      cases result with
      | error e' =>
        rw [bind_error ha] at h
        cases h
        exact ⟨[], a, rest, d, rfl, rfl, ha⟩
      | ok u =>
        rw [bind_ok ha] at h
        obtain ⟨before, last, after, e', rfl, hb, hl⟩ := ih h
        exact ⟨a :: before, last, after, e', rfl, (bind_ok ha).trans hb, hl⟩

theorem change_apply (f : Builder → Except StructuralFault Builder) (d : Draft) :
    change f d = match (f d.builder).mapError Draft.Fault.structural with
      | .ok b => (.ok (), ⟨b, d.journal⟩)
      | .error e => (.error e, d) := by
  unfold change
  cases f d.builder <;> rfl

theorem finish_ok {d : Draft} {s : Script} {b : Builder} (h : d.builder.finish = .ok (s, b)) :
    finish d = (.ok s, ⟨b, d.journal ++ [.finished s.length]⟩) := by
  unfold finish
  rw [bind_ok (show (get : Drafting Draft) d = (.ok d, d) from rfl), h]
  rfl

theorem finish_error {d : Draft} {e : StructuralFault} (h : d.builder.finish = .error e) :
    finish d = (.error (.structural e), d) := by
  unfold finish
  rw [bind_ok (show (get : Drafting Draft) d = (.ok d, d) from rfl), h]
  rfl

/-- On every draft that is not finished, the action answers `a`, writes `ns` and notes `js`. -/
def Writes (x : Drafting α) (a : α) (ns : List Node) (js : Journal) : Prop :=
  ∀ d : Draft, d.builder.finished = false →
    x d = (.ok a, ⟨d.builder.extend ns, d.journal ++ js⟩)

/-- On every draft that is not finished, the action notes `js` and fails with `f`. -/
def Fails (x : Drafting α) (f : Draft.Fault) (js : Journal) : Prop :=
  ∀ d : Draft, d.builder.finished = false → ∃ b, x d = (.error f, ⟨b, d.journal ++ js⟩)

section Rules

variable {x : Drafting α} {k : α → Drafting β} {a : α} {b : β} {ns ms : List Node}
  {js ls : Journal} {f : Draft.Fault}

theorem Writes.pure (a : α) : Writes (Pure.pure a) a [] [] := by
  intro d _
  simp only [Builder.extend_nil, List.append_nil]
  rfl

theorem Writes.bind (hx : Writes x a ns js) (hk : Writes (k a) b ms ls) :
    Writes (x >>= k) b (ns ++ ms) (js ++ ls) := by
  intro d hd
  rw [bind_ok (hx d hd), hk _ (by simpa using hd)]
  simp

theorem Writes.bind_fails (hx : Writes x a ns js) (hk : Fails (k a) f ls) :
    Fails (x >>= k) f (js ++ ls) := by
  intro d hd
  obtain ⟨b, hb⟩ := hk ⟨d.builder.extend ns, d.journal ++ js⟩ (by simpa using hd)
  exact ⟨b, by rw [bind_ok (hx d hd), hb, List.append_assoc]⟩

theorem Fails.bind (hx : Fails x f js) : Fails (x >>= k) f js := by
  intro d hd
  obtain ⟨b, hb⟩ := hx d hd
  exact ⟨b, bind_error hb⟩

theorem Writes.when {c : Prop} [Decidable c] {y : Drafting Unit} {k : Unit → Drafting β}
    (hy : Writes y () ns []) (hk : Writes (k ()) b ms js) :
    Writes (if c then y >>= k else k ()) b ((if c then ns else []) ++ ms) js := by
  split
  · exact hy.bind hk
  · exact hk

theorem writes_append (n : Node) : Writes (append n) () [n] [] := by
  intro d hd
  simp [append, change, Builder.append, hd, Builder.add_eq_extend]

theorem writes_note (n : Notice) : Writes (note n) () [] [n] := by
  intro d _
  rw [Builder.extend_nil]
  rfl

theorem fails_throw (f : Draft.Fault) : Fails (throw f : Drafting α) f [] := by
  intro d _
  exact ⟨d.builder, by rw [List.append_nil]; rfl⟩

theorem close_apply (root : List Node) (top : Frame) (below : List Frame) (journal : Journal) :
    close ⟨⟨root, top :: below, false⟩, journal⟩ =
      (.ok (), ⟨Builder.extend ⟨root, below, false⟩ [top.node], journal⟩) := by
  simp [close, change, Builder.close, Builder.add_eq_extend]

theorem Writes.fold (label : String) {x : Drafting Unit} (hx : Writes x () ns js) :
    Writes (fold label x) () [.fold label ns] js := by
  rintro ⟨⟨root, frames, finished⟩, journal⟩ rfl
  have ho : openFold label ⟨⟨root, frames, false⟩, journal⟩ =
      (.ok (), ⟨⟨root, .fold label [] :: frames, false⟩, journal⟩) := rfl
  unfold Drafting.fold
  rw [bind_ok ho, bind_ok (hx _ rfl)]
  exact close_apply root (.fold label ns) frames (journal ++ js)

theorem Fails.fold (label : String) {x : Drafting Unit} (hx : Fails x f js) :
    Fails (fold label x) f js := by
  rintro ⟨⟨root, frames, finished⟩, journal⟩ rfl
  have ho : openFold label ⟨⟨root, frames, false⟩, journal⟩ =
      (.ok (), ⟨⟨root, .fold label [] :: frames, false⟩, journal⟩) := rfl
  obtain ⟨b, hb⟩ := hx ⟨⟨root, .fold label [] :: frames, false⟩, journal⟩ rfl
  exact ⟨b, by unfold Drafting.fold; rw [bind_ok ho, bind_error hb]⟩

end Rules

section Arms

variable {x : Drafting Unit} {k : Unit → Drafting Unit} {ns own : List Node} {later : List Branch}
  {js ls : Journal}

def continued (closed : List Branch) (test : Option String) (body : List Node) :
    List Branch → Frame
  | [] => .conditional closed test body
  | ⟨next, first⟩ :: rest => continued (closed ++ [⟨test, body⟩]) next first rest

theorem node_continued (closed : List Branch) (test : Option String) (body : List Node)
    (later : List Branch) :
    (continued closed test body later).node = .conditional (closed ++ ⟨test, body⟩ :: later) := by
  induction later generalizing closed test body with
  | nil => rfl
  | cons arm rest ih =>
    obtain ⟨next, first⟩ := arm
    simp [continued, ih]

/-- In every open conditional that has no else yet, the action writes `own` into the last arm,
continues with the arms `later` and notes `js`. -/
def WritesArms (x : Drafting Unit) (own : List Node) (later : List Branch) (js : Journal) : Prop :=
  ∀ root closed test body below journal,
    x ⟨⟨root, .conditional closed (some test) body :: below, false⟩, journal⟩ =
      (.ok (), ⟨⟨root, continued closed (some test) (body ++ own) later :: below, false⟩,
        journal ++ js⟩)

theorem Writes.arms (hx : Writes x () ns js) : WritesArms x ns [] js := by
  intro root closed test body below journal
  exact hx _ rfl

theorem Writes.bind_arms (hx : Writes x () ns js) (hk : WritesArms (k ()) own later ls) :
    WritesArms (x >>= k) (ns ++ own) later (js ++ ls) := by
  intro root closed test body below journal
  rw [bind_ok (hx _ rfl)]
  have h := hk root closed test (body ++ ns) below (journal ++ js)
  rw [List.append_assoc, List.append_assoc] at h
  exact h

theorem WritesArms.elseIf (test : String) (hk : WritesArms (k ()) own later js) :
    WritesArms (elseIf test >>= k) [] (⟨some test, own⟩ :: later) js := by
  intro root closed last body below journal
  have he : Drafting.elseIf test
      ⟨⟨root, .conditional closed (some last) body :: below, false⟩, journal⟩ =
      (.ok (), ⟨⟨root, .conditional (closed ++ [⟨some last, body⟩]) (some test) [] :: below,
        false⟩, journal⟩) := rfl
  rw [bind_ok he, hk, List.append_nil]
  rfl

theorem WritesArms.orElse (hk : Writes (k ()) () ns js) :
    WritesArms (orElse >>= k) [] [⟨none, ns⟩] js := by
  intro root closed last body below journal
  have he : Drafting.orElse
      ⟨⟨root, .conditional closed (some last) body :: below, false⟩, journal⟩ =
      (.ok (), ⟨⟨root, .conditional (closed ++ [⟨some last, body⟩]) none [] :: below, false⟩,
        journal⟩) := rfl
  rw [bind_ok he, hk _ rfl, List.append_nil]
  rfl

theorem WritesArms.conditional (test : String) (hx : WritesArms x own later js) :
    Writes (conditional test x) () [.conditional (⟨some test, own⟩ :: later)] js := by
  rintro ⟨⟨root, frames, finished⟩, journal⟩ rfl
  have ho : openConditional test ⟨⟨root, frames, false⟩, journal⟩ =
      (.ok (), ⟨⟨root, .conditional [] (some test) [] :: frames, false⟩, journal⟩) := rfl
  unfold Drafting.conditional
  rw [bind_ok ho, bind_ok (hx ..), close_apply, node_continued]
  rfl

end Arms

end BuildScript.Drafting

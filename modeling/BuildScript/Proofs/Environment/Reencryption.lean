import Mathlib.Data.List.Forall2
import BuildScript.Build
import BuildScript.Proofs.Setting.SameBut

/-! # Environments encrypted anew

Two environment settings that differ only in the texts of their encrypted lines, where texts that
belong together assign the same names. Their variables then come in the same order under the same
names, and only values that are marked as secure differ.
-/

namespace BuildScript.Environment

inductive Variable.Alike : Variable → Variable → Prop
  | same (v : Variable) : Alike v v
  | secure (key v w : String) (echo : Bool) : Alike ⟨key, v, true, echo⟩ ⟨key, w, true, echo⟩

def SameNames (s t : Setting) : Prop :=
  (parse (s.written .sealed) true).map Variable.key =
    (parse (t.written .sealed) true).map Variable.key

/-- Two lines that are the same or hold other encrypted texts for the same names. -/
inductive SameLine : Setting → Setting → Prop
  | refl (s : Setting) : SameLine s s
  | secure {es fs : Entries} (h : Entries.SameBut "secure" SameNames es fs) :
    SameLine (.mapping es) (.mapping fs)

mutual

/-- Two environment settings that differ in encrypted texts for the same names. -/
inductive Reencrypted : Setting → Setting → Prop
  | line {s t : Setting} (h : SameLine s t) : Reencrypted s t
  | list {ss ts : List Setting} (h : List.Forall₂ SameLine ss ts) :
    Reencrypted (.list ss) (.list ts)
  | sections {es fs : Entries}
    (hs : (Entries.contains es "global" || Entries.contains es "matrix") = true)
    (h : ReencryptedEach es fs) : Reencrypted (.mapping es) (.mapping fs)

inductive ReencryptedEach : Entries → Entries → Prop
  | nil : ReencryptedEach [] []
  | cons (key : Scalar) {s t : Setting} {es fs : Entries} (h : Reencrypted s t)
    (hr : ReencryptedEach es fs) : ReencryptedEach ((key, s) :: es) ((key, t) :: fs)

end

/-! ## Lines -/

theorem forall₂_sameLine_refl (ss : List Setting) : List.Forall₂ SameLine ss ss :=
  List.forall₂_same.mpr fun s _ => .refl s

theorem sectionLines_congr {other name : String} {R : Setting → Setting → Prop} {es fs : Entries}
    (h : Entries.SameBut other R es fs) (hn : name ≠ other) :
    sectionLines name es = sectionLines name fs := by
  have hk : ¬ (Scalar.text other).sameKey (.text name) = true := fun hk =>
    hn (Scalar.text.inj (Scalar.text_sameKey.mp hk))
  induction h with
  | refl => rfl
  | here => rw [sectionLines, sectionLines, if_neg hk, if_neg hk]
  | @there e es fs _ _ ih =>
    obtain ⟨key, v⟩ := e
    rw [sectionLines, sectionLines, ih]

theorem SameLine.lines {s t : Setting} (h : SameLine s t) :
    List.Forall₂ SameLine (lines s) (lines t) := by
  cases h with
  | refl => exact forall₂_sameLine_refl _
  | @secure es fs h =>
    have hg : Entries.contains es "global" = Entries.contains fs "global" := by
      rw [Entries.contains, Entries.contains, h.get?_of_ne (by decide)]
    have hm : Entries.contains es "matrix" = Entries.contains fs "matrix" := by
      rw [Entries.contains, Entries.contains, h.get?_of_ne (by decide)]
    rw [Environment.lines, Environment.lines, hg, hm, sectionLines_congr h (by decide),
      sectionLines_congr h (by decide)]
    split
    · exact forall₂_sameLine_refl _
    · exact .cons (.secure h) .nil

theorem ReencryptedEach.contains {es fs : Entries} (h : ReencryptedEach es fs) (name : String) :
    Entries.contains es name = Entries.contains fs name := by
  induction es generalizing fs with
  | nil => cases h; rfl
  | cons e rest ih =>
    cases h with
    | cons key _ hr =>
      have ih := ih hr
      unfold Entries.contains at ih ⊢
      rw [Entries.get?_cons, Entries.get?_cons]
      split
      · rfl
      · exact ih

mutual

theorem Reencrypted.lines : ∀ {s t : Setting}, Reencrypted s t →
    List.Forall₂ SameLine (lines s) (lines t)
  | _, _, .line h => h.lines
  | _, _, .list h => h
  | .mapping es, .mapping fs, .sections hs h => by
    rw [Environment.lines, Environment.lines, ← h.contains, ← h.contains, if_pos hs, if_pos hs]
    exact List.rel_append (h.sectionLines "global") (h.sectionLines "matrix")

theorem ReencryptedEach.sectionLines : ∀ {es fs : Entries}, ReencryptedEach es fs →
    ∀ name, List.Forall₂ SameLine (sectionLines name es) (sectionLines name fs)
  | _, _, .nil, _ => .nil
  | _, _, .cons key h hr, name => by
    rw [Environment.sectionLines, Environment.sectionLines]
    split
    · exact h.lines
    · exact hr.sectionLines name

end

/-! ## Variables -/

theorem of_plain? {secure : Bool} {cs rest : List Char} {v : Variable}
    (h : plain? secure cs = some (v, rest)) : v.secure = secure ∧ v.echo = true := by
  unfold plain? at h
  split at h
  · cases h
    exact ⟨rfl, rfl⟩
  · cases h

theorem of_assignment? {cs rest : List Char} {v : Variable}
    (h : assignment? true cs = some (v, rest)) : v.secure = true ∧ v.echo = true := by
  unfold assignment? at h
  split at h
  · next found hf =>
    obtain ⟨ds, _, hd⟩ := Option.bind_eq_some_iff.mp hf
    cases h
    exact of_plain? hd
  · exact of_plain? h

/-- Every variable of an encrypted line is secure, and its name is shown. -/
theorem of_mem_scan {skip : Nat} {cs : List Char} {v : Variable} (h : v ∈ scan true skip cs) :
    v.secure = true ∧ v.echo = true := by
  induction cs generalizing skip with
  | nil => cases skip <;> cases h
  | cons c rest ih =>
    cases skip with
    | succ skip => exact ih h
    | zero =>
      rw [scan] at h
      split at h
      · next w after hw =>
        rcases List.mem_cons.mp h with rfl | hr
        · exact of_assignment? hw
        · exact ih hr
      · exact ih h

theorem Variable.alike_of_secure {v w : Variable} (hk : v.key = w.key)
    (hv : v.secure = true ∧ v.echo = true) (hw : w.secure = true ∧ w.echo = true) :
    v.Alike w := by
  obtain ⟨key, value, secure, echo⟩ := v
  obtain ⟨key', value', secure', echo'⟩ := w
  obtain ⟨rfl, rfl⟩ := hv
  obtain ⟨rfl, rfl⟩ := hw
  obtain rfl : key = key' := hk
  exact .secure key value value' true

theorem forall₂_alike_of_keys {vs ws : List Variable}
    (hk : vs.map Variable.key = ws.map Variable.key)
    (hv : ∀ v ∈ vs, v.secure = true ∧ v.echo = true)
    (hw : ∀ w ∈ ws, w.secure = true ∧ w.echo = true) : List.Forall₂ Variable.Alike vs ws := by
  induction vs generalizing ws with
  | nil =>
    rw [List.map_eq_nil_iff.mp hk.symm]
    exact .nil
  | cons v vs ih =>
    obtain ⟨w, ws, rfl, hw₁, hwr⟩ := List.map_eq_cons_iff.mp hk.symm
    rw [List.forall_mem_cons] at hv hw
    exact .cons (Variable.alike_of_secure hw₁.symm hv.1 hw.1) (ih hwr.symm hv.2 hw.2)

theorem SameNames.parse {s t : Setting} (h : SameNames s t) :
    List.Forall₂ Variable.Alike (parse (s.written .sealed) true)
      (parse (t.written .sealed) true) :=
  forall₂_alike_of_keys h (fun _ => of_mem_scan) fun _ => of_mem_scan

theorem forall₂_alike_refl (vs : List Variable) : List.Forall₂ Variable.Alike vs vs :=
  List.forall₂_same.mpr fun v _ => .same v

theorem SameLine.ofLine {s t : Setting} (h : SameLine s t) :
    List.Forall₂ Variable.Alike (ofLine s) (ofLine t) := by
  cases h with
  | refl => exact forall₂_alike_refl _
  | secure h =>
    rw [Environment.ofLine, Environment.ofLine]
    rcases h.get?_self with he | ⟨s, t, hs, ht, hr⟩
    · rw [he]
      exact forall₂_alike_refl _
    · rw [hs, ht]
      exact hr.parse

theorem Reencrypted.variables {s t : Setting} (h : Reencrypted s t) :
    List.Forall₂ Variable.Alike ((Environment.lines s).flatMap Environment.ofLine)
      ((Environment.lines t).flatMap Environment.ofLine) :=
  List.rel_flatMap h.lines fun _ _ hl => hl.ofLine

end BuildScript.Environment

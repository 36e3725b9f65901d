import BuildScript.Shell.Builder

/-! # Extensions of builders

Nodes that are written go to the end of the innermost open block. A builder extended by nodes has
the same open blocks as before, and only the innermost of them has grown.
-/

namespace BuildScript.Shell

/-- The block with nodes at the end of what is being written, in a conditional its last arm. -/
def Frame.extend (ns : List Node) : Frame → Frame
  | .fold label body => .fold label (body ++ ns)
  | .conditional closed test body => .conditional closed test (body ++ ns)

namespace Frame

@[simp] theorem extend_nil (f : Frame) : f.extend [] = f := by
  cases f <;> simp [extend]

@[simp] theorem extend_extend (f : Frame) (ns ms : List Node) :
    (f.extend ns).extend ms = f.extend (ns ++ ms) := by
  cases f <;> simp [extend]

@[simp] theorem kind_extend (f : Frame) (ns : List Node) : (f.extend ns).kind = f.kind := by
  cases f <;> rfl

theorem append_eq_extend (f : Frame) (n : Node) : f.append n = f.extend [n] := by
  cases f <;> rfl

end Frame

namespace Builder

def extend (b : Builder) (ns : List Node) : Builder :=
  match b.frames with
  | [] => { b with root := b.root ++ ns }
  | top :: below => { b with frames := top.extend ns :: below }

@[simp] theorem extend_nil (b : Builder) : b.extend [] = b := by
  obtain ⟨root, frames, finished⟩ := b
  cases frames <;> simp [extend]

@[simp] theorem extend_extend (b : Builder) (ns ms : List Node) :
    (b.extend ns).extend ms = b.extend (ns ++ ms) := by
  obtain ⟨root, frames, finished⟩ := b
  cases frames <;> simp [extend]

@[simp] theorem finished_extend (b : Builder) (ns : List Node) :
    (b.extend ns).finished = b.finished := by
  obtain ⟨root, frames, finished⟩ := b
  cases frames <;> rfl

@[simp] theorem kinds_extend (b : Builder) (ns : List Node) : (b.extend ns).kinds = b.kinds := by
  obtain ⟨root, frames, finished⟩ := b
  cases frames <;> simp [extend, kinds]

theorem add_eq_extend (b : Builder) (n : Node) : b.add n = b.extend [n] := by
  obtain ⟨root, frames, finished⟩ := b
  cases frames with
  | nil => rfl
  | cons top below => simp [add, extend, Frame.append_eq_extend]

/-! ## What a call leaves when it succeeds -/

variable {b b' : Builder}

theorem eq_of_append {n : Node} (h : b.append n = .ok b') : b' = b.extend [n] := by
  unfold append at h
  split at h
  · cases h
  · cases h
    exact add_eq_extend b n

theorem eq_of_push {f : Frame} (h : b.push f = .ok b') :
    b' = { b with frames := f :: b.frames } := by
  unfold push at h
  split at h <;> cases h
  rfl

theorem eq_of_nextArm {name : String} {test : Option String} (h : b.nextArm name test = .ok b') :
    ∃ closed last body below, b.frames = .conditional closed (some last) body :: below ∧
      b' = { b with frames := .conditional (closed ++ [⟨some last, body⟩]) test [] :: below } := by
  unfold nextArm at h
  split at h
  · cases h
  · split at h <;> cases h
    exact ⟨_, _, _, _, ‹_›, rfl⟩

theorem eq_of_close (h : b.close = .ok b') :
    ∃ top below, b.frames = top :: below ∧
      b' = Builder.extend { b with frames := below } [top.node] := by
  unfold close at h
  split at h
  · cases h
  · split at h <;> cases h
    exact ⟨_, _, ‹_›, add_eq_extend _ _⟩

theorem of_finish {s : Script} (h : b.finish = .ok (s, b')) :
    b.frames = [] ∧ b.finished = false ∧ s = b.root ∧ b' = { b with finished := true } := by
  unfold finish at h
  cases hu : b.finished with
  | true =>
    rw [if_pos hu] at h
    cases h
  | false =>
    rw [if_neg (by simp [hu])] at h
    split at h <;> cases h
    exact ⟨‹_›, rfl, rfl, rfl⟩

end Builder

end BuildScript.Shell

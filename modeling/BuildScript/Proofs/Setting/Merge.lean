import BuildScript.Proofs.Setting.Layers
import BuildScript.Setting.Held

/-! # Merging settings as they are held

A merge looks at what its arguments hold and not at the way they are held, and what it makes is
loose: it is the loose copy of one overlay. The laws of layers are laws of merges therefore, for
sealed arguments as well as for loose ones.
-/

namespace BuildScript

namespace Setting

mutual

/-- The setting, held in one form throughout. -/
def held (form : Form) : Setting → Held
  | .scalar s => .scalar s
  | .list items => .list form (heldItems form items)
  | .mapping entries => .mapping form (heldEntries form entries)

def heldItems (form : Form) : List Setting → List Held
  | [] => []
  | item :: rest => held form item :: heldItems form rest

def heldEntries (form : Form) : List (Scalar × Setting) → HeldEntries
  | [] => []
  | (key, value) :: rest => (key, held form value) :: heldEntries form rest

end

end Setting

namespace Held

open Setting (Form held heldItems heldEntries overlaid overlay Joins)

section Copies

variable (form : Form)

mutual

theorem copied_eq (h : Held) : copied form h = held form h.content := by
  cases h with
  | scalar s => rfl
  | list _ items => exact congrArg (Held.list form) (copiedItems_eq items)
  | mapping _ entries => exact congrArg (Held.mapping form) (copiedEntries_eq entries)

theorem copiedItems_eq (items : List Held) :
    copiedItems form items = heldItems form (itemContents items) := by
  cases items with
  | nil => rfl
  | cons item rest =>
    rw [copiedItems, itemContents, heldItems, copied_eq item, copiedItems_eq rest]

theorem copiedEntries_eq (entries : HeldEntries) :
    copiedEntries form entries = heldEntries form (contents entries) := by
  match entries with
  | [] => rfl
  | (key, value) :: rest =>
    rw [copiedEntries, contents, heldEntries, copied_eq value, copiedEntries_eq rest]

end

mutual

@[simp] theorem content_held (s : Setting) : (held form s).content = s := by
  cases s with
  | scalar s => rfl
  | list items => exact congrArg Setting.list (itemContents_heldItems items)
  | mapping entries => exact congrArg Setting.mapping (contents_heldEntries entries)

theorem itemContents_heldItems (items : List Setting) :
    itemContents (heldItems form items) = items := by
  cases items with
  | nil => rfl
  | cons item rest =>
    rw [heldItems, itemContents, content_held item, itemContents_heldItems rest]

@[simp] theorem contents_heldEntries (es : Entries) : contents (heldEntries form es) = es := by
  match es with
  | [] => rfl
  | (key, value) :: rest =>
    rw [heldEntries, contents, content_held value, contents_heldEntries rest]

end

@[simp] theorem contents_copiedEntries (entries : HeldEntries) :
    contents (copiedEntries form entries) = contents entries := by
  rw [copiedEntries_eq, contents_heldEntries]

theorem get?_held (es : Entries) (k : Scalar) :
    get? (heldEntries form es) k = (Entries.get? es k).map (held form) := by
  induction es with
  | nil => rfl
  | cons e rest ih =>
    have step : get? (heldEntries form (e :: rest)) k =
        if e.1.sameKey k then some (held form e.2) else get? (heldEntries form rest) k := by
      rw [heldEntries, get?, List.find?_cons]
      cases e.1.sameKey k <;> rfl
    rw [step, ih, Entries.get?_cons]
    split <;> rfl

theorem put_held (es : Entries) (k : Scalar) (v : Setting) :
    put (heldEntries form es) k (held form v) = heldEntries form (Entries.put es k v) := by
  induction es with
  | nil => rfl
  | cons e rest ih =>
    rw [heldEntries, put, Entries.put, ih]
    split <;> rfl

end Copies

mutual

theorem merged_eq (below : Option Setting) (h : Held) :
    merged (below.map (held .loose)) h = held .loose (overlaid below h.content) := by
  cases h with
  | scalar s => rfl
  | list _ items => exact congrArg (Held.list .loose) (copiedItems_eq .loose items)
  | mapping _ entries =>
    have alone := congrArg (Held.mapping .loose) (copiedEntries_eq .loose entries)
    match below with
    | none | some (.scalar _) | some (.list _) => exact alone
    | some (.mapping fs) =>
      refine congrArg (Held.mapping .loose) ?_
      rw [copiedEntries_eq, contents_heldEntries]
      exact mergedOnto_eq fs entries

theorem mergedOnto_eq (base : Entries) (entries : HeldEntries) :
    mergedOnto (heldEntries .loose base) entries =
      heldEntries .loose (overlay base (contents entries)) := by
  match entries with
  | [] => rfl
  | (key, value) :: rest =>
    rw [mergedOnto, get?_held, merged_eq _ value, put_held, mergedOnto_eq _ rest]
    rfl

end

theorem merge_eq (a b : HeldEntries) :
    merge a b = heldEntries .loose (overlay (contents a) (contents b)) := by
  rw [merge, copiedEntries_eq, mergedOnto_eq]

@[simp] theorem contents_merge (a b : HeldEntries) :
    contents (merge a b) = overlay (contents a) (contents b) := by
  rw [merge_eq, contents_heldEntries]

/-- Merges lay entries over each other, in whatever form they are held. Empty entries change nothing,
entries that are merged twice count once, and merges can be grouped in either way unless the middle
one of three parts two mappings. A key that is a NaN names a new entry each time, so that nothing
can be merged twice with it. -/
theorem merge_laws {a b c : HeldEntries} (ha : (Setting.mapping (contents a)).Keyed)
    (hb : (Setting.mapping (contents b)).Keyed) (hc : (Setting.mapping (contents c)).Keyed) :
    contents (merge a b) = overlay (contents a) (contents b) ∧
    merge [] a = copiedEntries .loose a ∧ merge a [] = copiedEntries .loose a ∧
    ((Setting.mapping (contents b)).Named → merge (merge a b) b = merge a b) ∧
    (∀ f g, merge (copiedEntries f a) (copiedEntries g b) = merge a b) ∧
    (Joins (.mapping (contents a)) (.mapping (contents b)) (.mapping (contents c)) →
      merge (merge a b) c = merge a (merge b c)) := by
  refine ⟨contents_merge a b, ?nothing, ?nothing', ?twice, ?forms, ?grouped⟩
  case nothing =>
    obtain - | - | ⟨hd, -⟩ := ha
    rw [merge_eq, copiedEntries_eq]
    exact congrArg _ hd.overlay_nil
  case nothing' =>
    rw [merge_eq, copiedEntries_eq]
    rfl
  case twice =>
    intro hn
    have below : ∀ s ∈ some (Setting.mapping (contents a)), s.Keyed := fun s hs =>
      Option.some.inj hs ▸ ha
    have absorbs := Setting.overlaid_absorbs hb hn below
    rw [merge_eq (merge a b), contents_merge, merge_eq a b]
    exact congrArg _ (Setting.mapping.inj absorbs)
  case forms =>
    intro f g
    rw [merge_eq, merge_eq, contents_copiedEntries, contents_copiedEntries]
  case grouped =>
    intro hj
    have grouped := Setting.overlaid_overlaid hc ha hb hj
    rw [merge_eq (merge a b), merge_eq a (merge b c), contents_merge, contents_merge]
    exact congrArg _ (Setting.mapping.inj grouped)

def defaultLayer : HeldEntries :=
  [(.text "git", .mapping .sealed [(.text "depth", .scalar (.int 50))])]

def middleLayer : HeldEntries :=
  [(.text "git", .mapping .loose [(.text "submodules", .scalar (.bool false))])]

def userLayer : HeldEntries :=
  [(.text "git", .mapping .loose [(.text "depth", .scalar (.int 1))]),
    (.text "script", .list .sealed [.scalar (.text "make")])]

theorem of_at?_single {name : String} {s m : Setting} {p : List Scalar}
    (h : (Setting.mapping [(.text name, s)]).at? p = some m) :
    p = [] ∧ m = .mapping [(.text name, s)] ∨
      ∃ rest, p = .text name :: rest ∧ s.at? rest = some m := by
  match p with
  | [] => exact .inl ⟨rfl, (Option.some.inj h).symm⟩
  | k :: rest =>
    obtain ⟨c, hc, hm⟩ := Option.bind_eq_some_iff.mp h
    obtain ⟨e, he, hk, rfl⟩ := Entries.exists_of_get? hc
    obtain rfl := List.mem_singleton.mp he
    obtain rfl := Scalar.text_sameKey.mp hk
    exact .inr ⟨rest, rfl, hm⟩

theorem merge_laws_layers :
    merge (merge defaultLayer middleLayer) userLayer =
      merge defaultLayer (merge middleLayer userLayer) ∧
    merge (merge defaultLayer middleLayer) middleLayer = merge defaultLayer middleLayer := by
  have git (name : String) (s : Scalar) : (Setting.mapping [(.text name, .scalar s)]).Keyed :=
    .single _ (.scalar _)
  have below : (Setting.mapping (contents defaultLayer)).Keyed := .single _ (git "depth" _)
  have middle : (Setting.mapping (contents middleLayer)).Keyed := .single _ (git "submodules" _)
  have above : (Setting.mapping (contents userLayer)).Keyed :=
    (Setting.Keyed.single (.text "git") (git "depth" _)).put (.text "script") (.list _)
  obtain ⟨-, -, -, twice, -, grouped⟩ := merge_laws below middle above
  constructor
  · refine grouped fun p fs es m hf _ hm => ?_
    -- past the two mappings of the middle layer the defaults hold none
    rcases of_at?_single hm with ⟨-, rfl⟩ | ⟨inner, rfl, hi⟩
    · rfl
    rcases of_at?_single hi with ⟨-, rfl⟩ | ⟨last, rfl, -⟩
    · rfl
    · cases last <;> cases hf
  · refine twice fun p es hp => ?_
    rcases of_at?_single hp with ⟨-, he⟩ | ⟨inner, rfl, hi⟩
    · cases he
      decide
    rcases of_at?_single hi with ⟨-, he⟩ | ⟨last, rfl, hl⟩
    · cases he
      decide
    · cases last <;> cases hl

/-- A middle layer that parts two mappings hides the lower one in one grouping only. -/
example :
    let parting : HeldEntries := [(.text "git", .scalar .null)]
    contents (merge (merge defaultLayer parting) [(.text "git", .mapping .loose [])]) =
        [(.text "git", .mapping [])] ∧
      contents (merge defaultLayer (merge parting [(.text "git", .mapping .loose [])])) =
        [(.text "git", .mapping [(.text "depth", .int 50)])] := ⟨rfl, rfl⟩

end Held

end BuildScript

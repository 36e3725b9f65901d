/-! # Ranges of code points

A character class is a sorted table of closed ranges, and a mapping is a table whose entries span
ranges. An entry is found by a binary search whose bounds shrink in every step.
-/

namespace BuildScript.Text

variable {α : Type}

/-- Looks for an entry whose span holds `c` among those at `lo ≤ i < hi` of a sorted table. -/
def search (span : α → Nat × Nat) (table : Array α) (c lo hi : Nat) : Option α :=
  if lo < hi then
    let mid := (lo + hi) / 2
    match table[mid]? with
    | none => none
    | some entry =>
      let (first, last) := span entry
      if c < first then search span table c lo mid
      else if last < c then search span table c (mid + 1) hi
      else some entry
  else none
termination_by hi - lo

/-- Membership of a character in a sorted table of closed ranges. -/
def inRanges (table : Array (Nat × Nat)) (c : Char) : Bool :=
  (search id table c.toNat 0 table.size).isSome

end BuildScript.Text

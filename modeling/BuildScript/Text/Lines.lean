/-! # Lines of a text

A text is cut at its newlines, so that it always has a first line, and joined again without loss.
-/

namespace BuildScript.Text

def linesOfChars : List Char → List (List Char)
  | [] => [[]]
  | c :: rest =>
    if c = '\n' then [] :: linesOfChars rest
    else match linesOfChars rest with
      | [] => [[c]]
      | line :: more => (c :: line) :: more

theorem linesOfChars_ne_nil (cs : List Char) : linesOfChars cs ≠ [] := by
  cases cs with
  | nil => simp [linesOfChars]
  | cons c rest =>
    simp only [linesOfChars]
    split
    · simp
    · split <;> simp

/-- Lines of a text; one more than it has newlines. -/
def lines (s : String) : List String := (linesOfChars s.toList).map String.ofList

/-- Every line end, whether of one character or two, becomes a newline. -/
def unifyNewlines : List Char → List Char
  | [] => []
  | '\r' :: '\n' :: rest => '\n' :: unifyNewlines rest
  | c :: rest => (if c = '\r' then '\n' else c) :: unifyNewlines rest

def joinLines (ls : List String) : String := String.intercalate "\n" ls

end BuildScript.Text

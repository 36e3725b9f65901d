/-! # Paths

A path as the names that lead to a place. Empty names and single dots lead nowhere and are left
out.
-/

namespace BuildScript.Text

/-- The name that leads out of a directory. -/
def outward : String := ".."

/-- The names between the slashes of a path. -/
def pathNames (path : String) : List String :=
  ((path.toList.splitOn '/').map String.ofList).filter fun n => n != "" && n != "."

end BuildScript.Text

/-! # Faults of documents

Why a text is not the document of a setting: its form is broken, or it asks for a number or a
character that there is not.
-/

namespace BuildScript.Yaml

inductive Fault
  | malformed
  /-- An integer has no digit after the mark of its base. -/
  | noDigits (base : Nat)
  /-- A decimal integer has more digits than are read. -/
  | longInteger (digits : Nat)
  /-- An escape gives a code point beyond the last one. -/
  | codePoint (n : Nat)
  /-- A number has more digits of base sixty than a double can weigh. -/
  | manySixtieths
  /-- Collections lie too deep in each other. -/
  | bottomless
deriving DecidableEq

/-- A reading that can only fail by the form of the text. -/
def orMalformed {α : Type} : Option α → Except Fault α
  | some a => .ok a
  | none => .error .malformed

end BuildScript.Yaml

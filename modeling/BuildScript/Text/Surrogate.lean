/-! # Surrogates

An escape may name a code point that is half of a surrogate pair. A half is no character, and a
text that holds one cannot be handed out. Within a text it stands as two characters of the fifth
plane, where none is assigned: the last of the plane as a mark, and then the one with the sixteen
bits of the half.
-/

namespace BuildScript.Text

def surrogateMark : Char := Char.ofNat 0x5ffff

/-- The characters that stand for a half. -/
def surrogate (code : Nat) : List Char := [surrogateMark, Char.ofNat (0x50000 + code)]

/-- The half that two characters stand for. -/
def surrogateCode? : List Char → Option Nat
  | [mark, c] =>
    if mark = surrogateMark ∧ 0x5d800 ≤ c.toNat ∧ c.toNat < 0x5e000 then some (c.toNat - 0x50000)
    else none
  | _ => none

/-- The members of a text one by one: each is a character or a half. -/
def units : List Char → List (List Char)
  | [] => []
  | [c] => [[c]]
  | c :: d :: rest =>
    if (surrogateCode? [c, d]).isSome then [c, d] :: units rest else [c] :: units (d :: rest)

def hasSurrogate (s : String) : Bool := (units s.toList).any fun u => (surrogateCode? u).isSome

/-- A text in which something else stands for each half. -/
def replaceSurrogates (f : Nat → List Char) (s : String) : String :=
  String.ofList ((units s.toList).flatMap fun u => ((surrogateCode? u).map f).getD u)

theorem units_flatten (cs : List Char) : (units cs).flatten = cs := by
  fun_induction units cs with
  | case1 => rfl
  | case2 => rfl
  | case3 c d rest _ ih => simp [ih]
  | case4 c d rest _ ih => simp [ih]

end BuildScript.Text

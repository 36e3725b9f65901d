/-! # Binary floating point numbers

A double in its three fields, the exact rational it stands for, and rounding of a ratio or of a
decimal to the nearest double, a tie going to the even significand.
-/

namespace BuildScript

/-- The fields of an IEEE 754 double. -/
structure Binary64 where
  negative : Bool
  exponent : Fin 2048
  fraction : Fin 4503599627370496
deriving DecidableEq

namespace Binary64

def infinite (negative : Bool) : Binary64 := ⟨negative, 2047, 0⟩

def nan : Binary64 := ⟨false, 2047, 2251799813685248⟩

def zero (negative : Bool) : Binary64 := ⟨negative, 0, 0⟩

def isNaN (x : Binary64) : Bool := x.exponent == 2047 && x.fraction != 0

def isInfinite (x : Binary64) : Bool := x.exponent == 2047 && x.fraction == 0

def isZero (x : Binary64) : Bool := x.exponent == 0 && x.fraction == 0

def abs (x : Binary64) : Binary64 := ⟨false, x.exponent, x.fraction⟩

/-- A finite double is `significand * 2 ^ scale` up to its sign. -/
def significand (x : Binary64) : Nat :=
  if x.exponent = 0 then x.fraction.val else 4503599627370496 + x.fraction.val

def scale (x : Binary64) : Int :=
  if x.exponent = 0 then -1074 else (x.exponent.val : Int) - 1075

/-- The value of a finite double as a ratio of naturals, without its sign. -/
def ratio (x : Binary64) : Nat × Nat :=
  if 0 ≤ x.scale then (x.significand * Nat.pow 2 x.scale.toNat, 1)
  else (x.significand, Nat.pow 2 (-x.scale).toNat)

/-- The integer that a finite double equals, if it equals one. -/
def toInt? (x : Binary64) : Option Int :=
  if x.exponent = 2047 then none
  else
    let (num, den) := x.ratio
    if num % den = 0 then
      let n : Int := (num / den : Nat)
      some (if x.negative then -n else n)
    else none

/-- The quotient rounded to the nearest natural, a tie to the even one. -/
def roundDiv (num den : Nat) : Nat :=
  let q := num / den
  let r := num % den
  if 2 * r < den then q
  else if den < 2 * r then q + 1
  else if q % 2 = 0 then q else q + 1

/-- A significand at a scale of at least `-1074`, put into fields. -/
def pack (negative : Bool) (significand : Nat) (scale : Int) : Binary64 :=
  let (m, s) := if significand = 9007199254740992 then (4503599627370496, scale + 1)
    else (significand, scale)
  if m < 4503599627370496 then ⟨negative, 0, Fin.ofNat _ m⟩
  else if s ≤ 971 then ⟨negative, Fin.ofNat _ (s + 1075).toNat, Fin.ofNat _ (m - 4503599627370496)⟩
  else infinite negative

/-- The double nearest to a ratio with positive denominator. -/
def ofRatio (negative : Bool) (num den : Nat) : Binary64 :=
  if num = 0 then zero negative
  else
    let guess : Int := (num.log2 : Int) - den.log2
    let fits : Bool :=
      if 0 ≤ guess then decide (den * Nat.pow 2 guess.toNat ≤ num)
      else decide (den ≤ num * Nat.pow 2 (-guess).toNat)
    let magnitude := if fits then guess else guess - 1
    let s := max (magnitude - 52) (-1074)
    let m := if 0 ≤ s then roundDiv num (den * Nat.pow 2 s.toNat)
      else roundDiv (num * Nat.pow 2 (-s).toNat) den
    pack negative m s

/-- The sum of two doubles that are not negative. -/
def plus (x y : Binary64) : Binary64 :=
  if x.isInfinite || y.isInfinite then infinite false
  else
    let ((a, b), (c, d)) := (x.ratio, y.ratio)
    ofRatio false (a * d + c * b) (b * d)

/-- The product of two doubles that are not negative, the second one finite and not zero. -/
def times (x y : Binary64) : Binary64 :=
  if x.isInfinite then infinite false
  else
    let ((a, b), (c, d)) := (x.ratio, y.ratio)
    ofRatio false (a * c) (b * d)

def countDigits (n : Nat) : Nat := (Nat.toDigits 10 n).length

/-- The double nearest to `digits * 10 ^ exponent`. Magnitudes far outside the range of doubles
are settled by the number of digits alone. -/
def ofDecimal (negative : Bool) (digits : Nat) (exponent : Int) : Binary64 :=
  let top : Int := countDigits digits + exponent
  if digits = 0 then zero negative
  else if 400 < top then infinite negative
  else if top < -400 then zero negative
  else if 0 ≤ exponent then ofRatio negative (digits * Nat.pow 10 exponent.toNat) 1
  else ofRatio negative digits (Nat.pow 10 (-exponent).toNat)

end Binary64

end BuildScript

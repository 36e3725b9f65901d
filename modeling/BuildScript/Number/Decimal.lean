import BuildScript.Number.Binary64

/-! # Decimal text of doubles

The fewest decimal digits that read back to the same double, and the layout in which settings
write them: positional from `1e-4` up to below `1e16`, with an exponent of at least two digits
outside.
-/

namespace BuildScript

/-- A positive decimal `digits * 10 ^ exponent`. -/
structure Decimal where
  digits : Nat
  exponent : Int
deriving DecidableEq

namespace Binary64

/-- The exponent of the leading decimal digit of a positive ratio, found from a near guess. -/
def leadingExponent (num den : Nat) : Int :=
  let guess : Int := (countDigits num : Int) - countDigits den
  let atLeast : Bool :=
    if 0 ≤ guess then decide (den * Nat.pow 10 guess.toNat ≤ num)
    else decide (den ≤ num * Nat.pow 10 (-guess).toNat)
  if atLeast then guess else guess - 1

/-- The two neighbours of the value on the grid of `places` significant digits that read back to
it, the nearer one first. -/
def candidates (x : Binary64) (places : Nat) : List Decimal :=
  let (num, den) := x.ratio
  let step := leadingExponent num den - places + 1
  let (n, d) := if 0 ≤ step then (num, den * Nat.pow 10 step.toNat)
    else (num * Nat.pow 10 (-step).toNat, den)
  let low : Decimal := ⟨n / d, step⟩
  let high : Decimal := ⟨n / d + 1, step⟩
  let nearer := if roundDiv n d = n / d then [low, high] else [high, low]
  nearer.filter fun c => ofDecimal false c.digits c.exponent = x

/-- The shortest decimal that reads back, tried from `places` digits on. -/
def shortestFrom (x : Binary64) (places : Nat) : Nat → Decimal
  | 0 => ⟨x.significand, x.scale⟩
  | fuel + 1 =>
    match x.candidates places with
    | best :: _ => best
    | [] => shortestFrom x (places + 1) fuel

/-- The fewest digits that read back to a positive finite double; seventeen always do. -/
def shortest (x : Binary64) : Decimal := shortestFrom x 1 17

end Binary64

namespace Decimal

/-- The digits without trailing zeros, and the exponent of the first of them. -/
def scientific (d : Decimal) : List Char × Int :=
  let all := Nat.toDigits 10 d.digits
  let trimmed := (all.reverse.dropWhile (· == '0')).reverse
  (trimmed, d.exponent + all.length - 1)

def exponentDigits (n : Nat) : List Char :=
  if n < 10 then '0' :: Nat.toDigits 10 n else Nat.toDigits 10 n

/-- The written form of a positive decimal. -/
def text (d : Decimal) : String :=
  let (ds, e) := d.scientific
  String.ofList <|
    if e < -4 ∨ 16 ≤ e then
      let mantissa := match ds with
        | [] => []
        | [c] => [c]
        | c :: rest => c :: '.' :: rest
      mantissa ++ 'e' :: (if e < 0 then '-' else '+') :: exponentDigits e.natAbs
    else if e < 0 then
      '0' :: '.' :: List.replicate (-e - 1).toNat '0' ++ ds
    else
      let whole := e.toNat + 1
      if ds.length ≤ whole then ds ++ List.replicate (whole - ds.length) '0' ++ ['.', '0']
      else ds.take whole ++ '.' :: ds.drop whole

end Decimal

/-- The written form of a double. -/
def Binary64.text (x : Binary64) : String :=
  if x.isNaN then "nan"
  else
    let sign := if x.negative then "-" else ""
    if x.isInfinite then sign ++ "inf"
    else if x.isZero then sign ++ "0.0"
    else sign ++ x.abs.shortest.text

end BuildScript

import BuildScript.Setting.Basic
import BuildScript.Yaml.Fault

/-! # Values of plain scalars

A scalar without quotes is null, a truth value or a number if it is written like one, and a text
otherwise. Underscores in numbers are passed over, and colons separate digits of base sixty. An
integer has at least one digit and a decimal one no more than a limit.
-/

namespace BuildScript.Yaml

def nullWords : List String := ["", "~", "null", "Null", "NULL"]

def trueWords : List String :=
  ["yes", "Yes", "YES", "true", "True", "TRUE", "on", "On", "ON"]

def falseWords : List String :=
  ["no", "No", "NO", "false", "False", "FALSE", "off", "Off", "OFF"]

/-- The sign of a number, which is negative or not, and the rest. -/
def sign : List Char → Bool × List Char
  | '-' :: rest => (true, rest)
  | '+' :: rest => (false, rest)
  | cs => (false, cs)

def digitValue (c : Char) : Nat :=
  if c.isDigit then c.toNat - 48
  else if 'a' ≤ c && c ≤ 'f' then c.toNat - 87
  else c.toNat - 55

/-- Digits of a base, underscores passed over. -/
def digitsIn (base : Nat) (cs : List Char) : Nat :=
  (cs.filter (· != '_')).foldl (fun n c => n * base + digitValue c) 0

/-- One or more characters of a class or underscores. -/
def isRun (p : Char → Bool) (cs : List Char) : Bool :=
  !cs.isEmpty && cs.all fun c => p c || c == '_'

def isOctalDigit (c : Char) : Bool := '0' ≤ c && c ≤ '7'

def isHexadecimalDigit (c : Char) : Bool :=
  c.isDigit || ('a' ≤ c && c ≤ 'f') || ('A' ≤ c && c ≤ 'F')

/-- The parts of a text between colons. -/
def colonParts (cs : List Char) : List (List Char) := cs.splitOn ':'

/-- A digit of base sixty: up to two decimal digits, the first of two below six. -/
def isSixtieth : List Char → Bool
  | [a] => a.isDigit
  | [a, b] => '0' ≤ a && a ≤ '5' && b.isDigit
  | _ => false

def startsWithDigit (cs : List Char) : Bool := cs.head?.any Char.isDigit

/-- Digits of which the first is no underscore. -/
def isDecimal (cs : List Char) : Bool := startsWithDigit cs && isRun Char.isDigit cs

/-- The most digits of a decimal integer. -/
def digitLimit : Nat := 4300

/-- An integer in a base, read from its digits. -/
def numeral (base : Nat) (cs : List Char) : Except Fault Nat :=
  let count := (cs.filter (· != '_')).length
  if count = 0 then .error (.noDigits base)
  else if base = 10 && decide (digitLimit < count) then .error (.longInteger count)
  else .ok (digitsIn base cs)

/-- The magnitude of what is written like an integer. -/
def magnitude? (cs : List Char) : Option (Except Fault Nat) :=
  match cs with
  | ['0'] => some (.ok 0)
  | '0' :: 'b' :: rest =>
    if isRun (fun c => c == '0' || c == '1') rest then some (numeral 2 rest) else none
  | '0' :: 'x' :: rest => if isRun isHexadecimalDigit rest then some (numeral 16 rest) else none
  | '0' :: rest => if isRun isOctalDigit rest then some (numeral 8 ('0' :: rest)) else none
  | cs =>
    match colonParts cs with
    | [whole] => if isDecimal whole then some (numeral 10 whole) else none
    | whole :: parts =>
      if isDecimal whole && parts.all isSixtieth then
        some ((numeral 10 whole).map (parts.foldl fun n part => n * 60 + digitsIn 10 part))
      else none
    | [] => none

def int? (cs : List Char) : Option (Except Fault Int) :=
  let (negative, rest) := sign cs
  (magnitude? rest).map fun found => found.map fun n => if negative then -(n : Int) else n

/-- The double of a decimal fraction, its exponent already read. -/
def fraction (whole after : List Char) (exponent : Int) : Binary64 :=
  let tail := after.filter (· != '_')
  Binary64.ofDecimal false (digitsIn 10 (whole ++ tail)) (exponent - tail.length)

/-- An exponent with its sign, or none at all. -/
def exponent? : List Char → Option Int
  | [] => some 0
  | e :: s :: digits =>
    if (e == 'e' || e == 'E') && (s == '+' || s == '-') && !digits.isEmpty &&
        digits.all Char.isDigit then
      let n : Int := digitsIn 10 digits
      some (if s == '-' then -n else n)
    else none
  | _ => none

def isFractionChar (c : Char) : Bool := c.isDigit || c == '_'

/-- Digits, a point, digits, and perhaps an exponent. -/
def decimalFloat? (cs : List Char) : Option Binary64 :=
  let whole := cs.takeWhile isFractionChar
  match cs.dropWhile isFractionChar with
  | '.' :: rest =>
    let after := rest.takeWhile isFractionChar
    let wellFormed := if whole.isEmpty then isDecimal after else isDecimal whole
    match wellFormed, exponent? (rest.dropWhile isFractionChar) with
    | true, some e => some (fraction whole after e)
    | _, _ => none
  | _ => none

/-- Adds up digits of base sixty, the last one first. Each is weighed by the double of its power. -/
def weigh (sum : Binary64) (power : Nat) : List Binary64 → Except Fault Binary64
  | [] => .ok sum
  | digit :: rest =>
    let weight := Binary64.ofRatio false power 1
    if weight.isInfinite then .error .manySixtieths
    else weigh (sum.plus (digit.times weight)) (power * 60) rest

/-- Digits of base sixty before a decimal fraction. -/
def sixtiethFloat? (cs : List Char) : Option (Except Fault Binary64) :=
  match (colonParts cs).reverse with
  | last :: inner =>
    let whole := last.takeWhile (· != '.')
    match last.dropWhile (· != '.'), inner.reverse with
    | '.' :: after, first :: middle =>
      if isDecimal first && middle.all isSixtieth && isSixtieth whole &&
          after.all isFractionChar then
        let parts := fraction whole after 0 :: inner.map fun part => fraction part [] 0
        some (weigh (Binary64.zero false) 1 parts)
      else none
    | _, _ => none
  | [] => none

def float? (cs : List Char) : Option (Except Fault Binary64) :=
  let (negative, rest) := sign cs
  let signed (x : Binary64) : Binary64 := { x with negative := negative }
  if [".inf", ".Inf", ".INF"].contains (String.ofList rest) then some (.ok (.infinite negative))
  else if [".nan", ".NaN", ".NAN"].contains (String.ofList cs) then some (.ok .nan)
  else
    match decimalFloat? rest with
    -- a fraction that begins with its point has no sign
    | some x =>
      if rest.head? = some '.' && rest.length != cs.length then none else some (.ok (signed x))
    | none => (sixtiethFloat? rest).map fun found => found.map signed

/-- What a plain scalar stands for. -/
def plainValue (s : String) : Except Fault Scalar :=
  if nullWords.contains s then .ok .null
  else if trueWords.contains s then .ok (.bool true)
  else if falseWords.contains s then .ok (.bool false)
  else
    match float? s.toList with
    | some found => found.map .float
    | none =>
      match int? s.toList with
      | some found => found.map .int
      | none => .ok (.text s)

end BuildScript.Yaml

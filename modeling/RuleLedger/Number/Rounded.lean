import RuleLedger.Number.Decimal

/-! Doubles rounded to a given number of digits: with a power of ten, with a fixed number of places,
or in the shorter of the two forms. -/
namespace RuleLedger

/-- How a double is laid out. -/
inductive Notation where
  /-- One digit before the point and a power of ten. -/
  | scientific
  /-- A fixed number of digits after the point. -/
  | fixed
  /-- A number of digits in all, with a power of ten when it is very small or has more digits. -/
  | general
deriving Repr, DecidableEq

namespace Decimal

/-- The nearest decimal of `n` digits to a nonzero double, a tie going to the even last digit. -/
def significant (x : Dyadic) (n : Nat) : Decimal :=
  let d := (neighbours x.num x.den (scale x.num x.den - n)).1
  if d.digits = Nat.pow 10 n then ⟨Nat.pow 10 (n - 1), d.exponent + 1⟩ else d

end Decimal

/-- Digits before the others after a point; a point without digits after it is kept on demand. -/
def withPoint (whole rest : List Char) (keepPoint : Bool) : List Char :=
  whole ++ if rest.isEmpty && !keepPoint then [] else '.' :: rest

/-- A power of ten in at least two digits. -/
def powerText (power : Int) : List Char :=
  let size := (toString power.natAbs).toList
  'e' :: (if power < 0 then '-' else '+') :: (List.replicate (2 - size.length) '0' ++ size)

/-- The digits of a double rounded to `n` of them, and the power of ten of the first. -/
def leadingDigits (x : Dyadic) (n : Nat) : List Char × Int :=
  if x.mantissa = 0 then (List.replicate n '0', 0) else
    let d := Decimal.significant x n
    ((toString d.digits).toList, d.exponent + n - 1)

def dropTrailingZeros (cs : List Char) : List Char := (cs.reverse.dropWhile (· = '0')).reverse

/-- The absolute value of a double. A marked form keeps its point, and in the general notation its
zeros. -/
def unsignedText (x : Dyadic) (form : Notation) (digits : Nat) (marked : Bool) : List Char :=
  match form with
  | .scientific =>
    let (ds, power) := leadingDigits x (digits + 1)
    withPoint (ds.take 1) (ds.drop 1) marked ++ powerText power
  | .fixed =>
    (fixedText { x with negative := false } digits).toList ++
      if digits = 0 && marked then ['.'] else []
  | .general =>
    let n := max digits 1
    let (ds, power) := leadingDigits x n
    let trim (cs : List Char) := if marked then cs else dropTrailingZeros cs
    if power < -4 || power ≥ n then
      withPoint (ds.take 1) (trim (ds.drop 1)) marked ++ powerText power
    else if power < 0 then
      withPoint ['0'] (trim (List.replicate (-power - 1).toNat '0' ++ ds)) marked
    else withPoint (ds.take (power.toNat + 1)) (trim (ds.drop (power.toNat + 1))) marked

/-- A double with its sign, when it is negative. -/
def roundedText (x : Float) (form : Notation) (digits : Nat) (marked : Bool) : List Char :=
  match Dyadic.ofFloat? x with
  | some d => (if d.negative then ['-'] else []) ++ unsignedText d form digits marked
  | none => (floatText x).toList

end RuleLedger

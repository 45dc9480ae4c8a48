/-! Doubles as exact numbers: a finite double is a whole number times a power of two, and a ratio of
whole numbers has a nearest double. -/
namespace RuleLedger

/-- The number (-1)^negative · mantissa · 2^exponent. -/
structure Dyadic where
  negative : Bool
  mantissa : Nat
  exponent : Int
deriving Repr, DecidableEq

namespace Dyadic

/-- The exponent of the least positive double. -/
def minExponent : Int := -1074

/-- The exact value of a finite double. -/
def ofFloat? (x : Float) : Option Dyadic :=
  let bits := x.toBits.toNat
  let fraction := bits % 1 <<< 52
  match bits >>> 52 % 2048 with
  | 2047 => none
  | 0 => some ⟨bits >>> 63 == 1, fraction, minExponent⟩
  | e => some ⟨bits >>> 63 == 1, 1 <<< 52 + fraction, e - 1075⟩

/-- The absolute value as a fraction. -/
def num (d : Dyadic) : Nat := d.mantissa <<< d.exponent.toNat

def den (d : Dyadic) : Nat := 1 <<< (-d.exponent).toNat

theorem den_pos (d : Dyadic) : 0 < d.den := by
  rw [den, Nat.shiftLeft_eq, Nat.one_mul]
  exact Nat.two_pow_pos _

def signed (d : Dyadic) (n : Nat) : Int := if d.negative then -(n : Int) else n

/-- The value in units of the least positive double. -/
def units (d : Dyadic) : Int := d.signed (d.mantissa <<< (d.exponent - minExponent).toNat)

def isWhole (d : Dyadic) : Bool := d.num % d.den == 0

/-- The part before the point. -/
def truncate (d : Dyadic) : Int := d.signed (d.num / d.den)

/-- The greatest whole number that is not above the value. -/
def floor (d : Dyadic) : Int := (d.signed d.num) / (d.den : Int)

def ceil (d : Dyadic) : Int := -(-(d.signed d.num) / (d.den : Int))

end Dyadic

/-- The quotient rounded to the nearest whole number; a tie goes to the even one. -/
def divNearest (num den : Nat) : Nat :=
  let q := num / den
  let twice := 2 * (num % den)
  if den < twice || (den == twice && q % 2 == 1) then q + 1 else q

namespace Binary64

/-- The power of two of the leading bit of a positive fraction. -/
def leadingExponent (num den : Nat) : Int :=
  let e := (num.log2 : Int) - den.log2
  if num <<< (-e).toNat < den <<< e.toNat then e - 1 else e

/-- The nearest double to a fraction, a tie going to the even mantissa; none beyond the range. -/
def ofRatio? (num den : Nat) : Option Float :=
  if num = 0 then some 0.0 else
    let q := max (leadingExponent num den - 52) Dyadic.minExponent
    let m := divNearest (num <<< (-q).toNat) (den <<< q.toNat)
    let bits := (q - Dyadic.minExponent).toNat <<< 52 + m
    if bits < 2047 <<< 52 then some (Float.ofBits (UInt64.ofNat bits)) else none

def infinity : Float := 1.0 / 0.0

def nan : Float := 0.0 / 0.0

def withSign (negative : Bool) (x : Float) : Float := if negative then -x else x

/-- The nearest double to a whole number; none beyond the range. -/
def ofInt? (n : Int) : Option Float :=
  (ofRatio? n.natAbs 1).map (withSign (decide (n < 0)))

def isNegative (x : Float) : Bool := x.toBits.toNat >>> 63 == 1

/-- The remainder of the division that rounds toward zero, with the sign of the dividend; the
remainder of two doubles is a double, so nothing is rounded. -/
def remainder (x y : Float) : Float :=
  match Dyadic.ofFloat? x, Dyadic.ofFloat? y with
  | some a, some b =>
    if b.mantissa = 0 then nan else
      let r := (a.num * b.den) % (b.num * a.den)
      withSign a.negative ((ofRatio? r (a.den * b.den)).getD infinity)
  | some _, none => if y.isNaN then nan else x
  | none, _ => nan

end Binary64
end RuleLedger

import RuleLedger.Number.Binary64

/-! Decimal forms of doubles: the fewest digits that read back, a fixed number of places, and the
reading of decimals. -/
namespace RuleLedger

/-- The number digits · 10^exponent. -/
structure Decimal where
  digits : Nat
  exponent : Int
deriving Repr, DecidableEq

namespace Decimal

def num (d : Decimal) : Nat := d.digits * Nat.pow 10 d.exponent.toNat

def den (d : Decimal) : Nat := Nat.pow 10 (-d.exponent).toNat

/-- The same number without trailing zeros; at most `fuel` of them are dropped. -/
def stripZeros : (fuel : Nat) → Decimal → Decimal
  | 0, d => d
  | fuel + 1, d =>
    if d.digits ≠ 0 && d.digits % 10 = 0 then stripZeros fuel ⟨d.digits / 10, d.exponent + 1⟩ else d

/-- Whether the decimal reads back as the positive double m · 2^q, that is, lies between the
halfway points to its two neighbours; the halfway points belong to it when m is even. Below a power
of two the neighbour is half as far. -/
def readsBack (m : Nat) (q : Int) (d : Decimal) : Bool :=
  let low := if m = 1 <<< 52 && q ≠ Dyadic.minExponent then 4 * m - 1 else 4 * m - 2
  let high := 4 * m + 2
  let v := 4 * d.num <<< (-q).toNat
  let unit := d.den <<< q.toNat
  if m % 2 = 0 then low * unit ≤ v && v ≤ high * unit else low * unit < v && v < high * unit

/-- Whether num / den is below 10^k. -/
def belowPower (num den : Nat) (k : Int) : Bool :=
  num * Nat.pow 10 (-k).toNat < den * Nat.pow 10 k.toNat

/-- The least k from a start on with num / den below 10^k, looked for in `fuel` steps. -/
def scaleFrom : (fuel : Nat) → (num den : Nat) → Int → Int
  | 0, _, _, k => k
  | fuel + 1, num, den, k => if belowPower num den k then k else scaleFrom fuel num den (k + 1)

/-- The number of digits before the point of a positive fraction; not positive below a tenth. -/
def scale (num den : Nat) : Int :=
  scaleFrom 5 num den (((num.log2 : Int) - den.log2 - 1) * 30103 / 100000 - 1)

/-- The decimals next to num / den on the grid of the multiples of 10^t, the nearer one first; of
two equally near ones the even one first. -/
def neighbours (num den : Nat) (t : Int) : Decimal × Decimal :=
  let n := num * Nat.pow 10 (-t).toNat
  let d := den * Nat.pow 10 t.toNat
  let below := n / d
  let twice := 2 * (n % d)
  if twice < d || (twice == d && below % 2 == 0) then (⟨below, t⟩, ⟨below + 1, t⟩)
  else (⟨below + 1, t⟩, ⟨below, t⟩)

/-- The first hit among the grids of `n`, `n + 1`, … digits, `fuel` grids in all; the last grid
answers with its nearest point. -/
def searchFrom (m : Nat) (q : Int) (num den : Nat) (k : Int) : (fuel : Nat) → (n : Nat) → Decimal
  | 0, n => (neighbours num den (k - n)).1
  | fuel + 1, n =>
    let c := neighbours num den (k - n)
    if readsBack m q c.1 then c.1
    else if readsBack m q c.2 then c.2
    else searchFrom m q num den k fuel (n + 1)

/-- The decimal of fewest digits that reads back as a nonzero finite double, the nearest of those.
-/
def shortest (x : Dyadic) : Decimal :=
  stripZeros 20 (searchFrom x.mantissa x.exponent x.num x.den (scale x.num x.den) 16 1)

/-- The nearest double; beyond the range it is infinite. The bounds on the size spare the work on
numbers that are out of range on either side. -/
def toFloat (d : Decimal) : Float :=
  if d.digits = 0 then 0.0 else
    let size := d.exponent + d.digits.log2 * 30103 / 100000
    if size > 400 then Binary64.infinity
    else if size < -400 then 0.0
    else (Binary64.ofRatio? d.num d.den).getD Binary64.infinity

end Decimal

/-- Digits with a point after the first `point` of them; places without a digit hold zeros. -/
def positional (digits : List Char) (point : Int) : List Char :=
  if point ≤ 0 then '0' :: '.' :: List.replicate (-point).toNat '0' ++ digits
  else if point.toNat < digits.length then
    digits.take point.toNat ++ '.' :: digits.drop point.toNat
  else digits ++ List.replicate (point.toNat - digits.length) '0' ++ ['.', '0']

/-- One digit before the point, and the power of ten in at least two digits. -/
def scientific (digits : List Char) (power : Int) : List Char :=
  let tail := digits.drop 1
  let size := (toString power.natAbs).toList
  digits.take 1 ++ (if tail.isEmpty then [] else '.' :: tail) ++
    'e' :: (if power < 0 then '-' else '+') :: (if size.length < 2 then '0' :: size else size)

/-- A double in the fewest digits that read back, positional from 0.0001 up to below 10^16 and with
a power of ten elsewhere. A whole number keeps one zero after its point. -/
def floatText (x : Float) : String :=
  match Dyadic.ofFloat? x with
  | none => if x.isNaN then "nan" else if Binary64.isNegative x then "-inf" else "inf"
  | some d =>
    let sign := if d.negative then ['-'] else []
    if d.mantissa = 0 then String.ofList (sign ++ ['0', '.', '0']) else
      let s := Decimal.shortest d
      let digits := (toString s.digits).toList
      let point := s.exponent + digits.length
      String.ofList <| sign ++
        if -4 < point && point ≤ 16 then positional digits point else scientific digits (point - 1)

/-- A finite double with a fixed number of places, a tie going to the even last digit. -/
def fixedText (x : Dyadic) (places : Nat) : String :=
  let digits := (toString (divNearest (x.num * Nat.pow 10 places) x.den)).toList
  let padded := List.replicate (places + 1 - digits.length) '0' ++ digits
  let whole := padded.take (padded.length - places)
  let rest := padded.drop (padded.length - places)
  String.ofList <| (if x.negative then ['-'] else []) ++ whole ++
    if rest.isEmpty then [] else '.' :: rest

end RuleLedger

import RuleLedger.Expr.Signature

/-! The numeric helpers. A helper whose result is undefined or out of range answers NaN. -/
namespace RuleLedger

namespace MathFunction

/-- Half is added and the rest cut off, so that a half goes up. -/
def roundHalfUp (x : Number) : Option Number := do
  match x with
  | .float y => if y.isInf then return .float y
  | _ => pure ()
  let y ← x.toFloat.toOption
  Number.wholeBy? Dyadic.floor (.float (y + 0.5))

def signOf (x : Number) : Number :=
  .int ((if Number.lt (.int 0) x then 1 else 0) - (if x.lt (.int 0) then 1 else 0))

/-- A power of finite numbers is undefined where it is not finite. -/
def power (x y : Number) : Option Number := do
  let a ← x.toFloat.toOption
  let b ← y.toFloat.toOption
  let r := a.pow b
  if a.isFinite && b.isFinite && !r.isFinite then none else return .float r

def squareRoot (x : Number) : Option Number := do
  if x.lt (.int 0) then none
  return .float (← x.toFloat.toOption).sqrt

/-- The natural logarithm; an integer beyond the doubles is first scaled by a power of two to a
double from one half up to below one. -/
def logarithm (x : Number) : Option Number :=
  if x.isZero then some Number.negativeInfinity
  else if x.lt (.int 0) then none
  else
    match x.toFloat, x with
    | .ok y, _ => some (.float y.log)
    | .error _, .int n => do
      let bits := n.natAbs.log2 + 1
      let m ← Binary64.ofRatio? n.natAbs (1 <<< bits)
      let (m, bits) := if m < 1.0 then (m, bits) else (0.5, bits + 1)
      return .float (m.log + (2.0 : Float).log * bits.toFloat)
    | _, _ => none

def exponential (x : Number) : Option Number := do
  let y ← x.toFloat.toOption
  let r := y.exp
  if y.isFinite && !r.isFinite then none else return .float r

/-- The first of the greatest. -/
def greatest : List Number → Number
  | [] => Number.negativeInfinity
  | x :: xs => xs.foldl (fun m y => if m.lt y then y else m) x

/-- The first of the least. -/
def least : List Number → Number
  | [] => Number.infinity
  | x :: xs => xs.foldl (fun m y => if y.lt m then y else m) x

/-- The function on arguments of the right number, none of which is NaN. -/
def compute : MathFunction → List Number → Option Number
  | .abs, x :: _ => some x.abs
  | .ceil, x :: _ => x.wholeBy? Dyadic.ceil
  | .floor, x :: _ => x.wholeBy? Dyadic.floor
  | .round, x :: _ => roundHalfUp x
  | .trunc, x :: _ => x.wholeBy? Dyadic.truncate
  | .sign, x :: _ => some (signOf x)
  | .max, xs => some (greatest xs)
  | .min, xs => some (least xs)
  | .pow, x :: y :: _ => power x y
  | .sqrt, x :: _ => squareRoot x
  | .log, x :: _ => logarithm x
  | .exp, x :: _ => exponential x
  | _, _ => none

/-- A NaN among the arguments is the answer, whatever their number. -/
def apply (f : MathFunction) (xs : List Number) : Except String Number :=
  if xs.any Number.isNaN then .ok Number.nan
  else if f.signature.admits xs.length then .ok (((f.compute xs).getD Number.nan).normalize)
  else .error (f.signature.complaint xs.length)

end MathFunction

/-- The circle constant and the base of the natural logarithm. -/
def piValue : Float := 3.141592653589793

def eulerValue : Float := 2.718281828459045

end RuleLedger

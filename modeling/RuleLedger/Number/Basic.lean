import RuleLedger.Number.Decimal
import RuleLedger.Text.Basic
import RuleLedger.Text.Digit

/-! Numbers of the rule language: unbounded integers beside doubles. Comparisons are exact across
the two; arithmetic is exact on integers and goes through doubles as soon as one takes part. -/
namespace RuleLedger

/-- Why a conversion of numbers fails. -/
inductive NumericFault where
  /-- An integer beyond the range of doubles. -/
  | integerTooLarge
  /-- A quotient of integers beyond the range of doubles. -/
  | quotientTooLarge
  /-- Text of more digits than an integer is read from. -/
  | tooManyDigits (count : Nat)
  /-- An integer of more digits than are written. -/
  | tooLongToWrite
  /-- Text that is no integer. -/
  | notDecimal (shown : Text)
  /-- Text that is no double. -/
  | notNumeral (shown : Text)
deriving Repr, DecidableEq

/-- The most digits an integer is read from or written in. -/
def digitLimit : Nat := 4300

def NumericFault.message : NumericFault → Text
  | .integerTooLarge => "int too large to convert to float"
  | .quotientTooLarge => "integer division result too large for a float"
  | .tooManyDigits n =>
    "Exceeds the limit (4300 digits) for integer string conversion: value has " ++ toString n ++
      " digits; use sys.set_int_max_str_digits() to increase the limit"
  | .tooLongToWrite =>
    "Exceeds the limit (4300 digits) for integer string conversion; " ++
      "use sys.set_int_max_str_digits() to increase the limit"
  | .notDecimal shown => "invalid literal for int() with base 10: " ++ shown
  | .notNumeral shown => "could not convert string to float: " ++ shown

/-- The class under which a fault is reported. -/
def NumericFault.label : NumericFault → String
  | .integerTooLarge | .quotientTooLarge => "OverflowError"
  | .tooManyDigits _ | .tooLongToWrite | .notDecimal _ | .notNumeral _ => "ValueError"

/-- An integer in decimal digits. -/
def integerText (n : Int) : Except NumericFault String :=
  let digits := toString n.natAbs
  if digits.length > digitLimit then .error .tooLongToWrite
  else .ok (if n < 0 then "-" ++ digits else digits)

/-- The number that a run of decimal digits spells. -/
def readDigits (cs : List Symbol) : Except NumericFault Nat :=
  if cs.length > digitLimit then .error (.tooManyDigits cs.length) else .ok (Text.digitsValue cs)

inductive Number where
  | int (n : Int)
  | float (x : Float)
deriving Repr

namespace Number

def nan : Number := .float Binary64.nan
def infinity : Number := .float Binary64.infinity
def negativeInfinity : Number := .float (-Binary64.infinity)

def isNaN : Number → Bool
  | .int _ => false
  | .float x => x.isNaN

/-- A place on the number line, in units of the least positive double. -/
inductive Position where
  | low
  | finite (units : Int)
  | high
deriving Repr, DecidableEq

def Position.lt : Position → Position → Bool
  | .low, .low => false
  | .low, _ => true
  | .finite _, .low => false
  | .finite a, .finite b => decide (a < b)
  | .finite _, .high => true
  | .high, _ => false

/-- Where a number lies; a NaN lies nowhere. -/
def position? : Number → Option Position
  | .int n => some (.finite (n * (1 <<< (-Dyadic.minExponent).toNat : Nat)))
  | .float x =>
    match Dyadic.ofFloat? x with
    | some d => some (.finite d.units)
    | none => if x.isNaN then none else some (if Binary64.isNegative x then .low else .high)

/-- Equal numbers lie at one place. -/
def eq (a b : Number) : Bool :=
  match a.position?, b.position? with
  | some p, some q => decide (p = q)
  | _, _ => false

def lt (a b : Number) : Bool :=
  match a.position?, b.position? with
  | some p, some q => p.lt q
  | _, _ => false

def le (a b : Number) : Bool := a.lt b || a.eq b

def isZero (a : Number) : Bool := a.eq (.int 0)

def toFloat : Number → Except NumericFault Float
  | .int n =>
    match Binary64.ofInt? n with
    | some x => .ok x
    | none => .error .integerTooLarge
  | .float x => .ok x

/-- The magnitude below which every whole number is a double. -/
def exactBound : Nat := 1 <<< 53

/-- Whole doubles of moderate size become integers, so that 10 / 2 is 5 and not 5.0. -/
def normalize : Number → Number
  | .int n => .int n
  | .float x =>
    match Dyadic.ofFloat? x with
    | some d =>
      if d.isWhole && d.truncate.natAbs < exactBound then .int d.truncate else .float x
    | none => .float x

/-- An operation that is exact on integers and otherwise one of doubles. -/
def lift (whole : Int → Int → Int) (double : Float → Float → Float) :
    Number → Number → Except NumericFault Number
  | .int a, .int b => .ok (.int (whole a b))
  | a, b => do return .float (double (← a.toFloat) (← b.toFloat))

def add : Number → Number → Except NumericFault Number := lift (· + ·) (· + ·)
def sub : Number → Number → Except NumericFault Number := lift (· - ·) (· - ·)
def mul : Number → Number → Except NumericFault Number := lift (· * ·) (· * ·)

def neg : Number → Number
  | .int n => .int (-n)
  | .float x => .float (-x)

def abs : Number → Number
  | .int n => .int n.natAbs
  | .float x => .float x.abs

def isNegative : Number → Bool
  | .int n => n < 0
  | .float x => Binary64.isNegative x

/-- The quotient of integers, rounded once. -/
def divInt (a b : Int) : Except NumericFault Number :=
  match Binary64.ofRatio? a.natAbs b.natAbs with
  | some x => .ok (.float (Binary64.withSign (decide (a < 0) != decide (b < 0)) x))
  | none => .error .quotientTooLarge

/-- The quotient by a divisor that is not zero. -/
def div : Number → Number → Except NumericFault Number
  | .int a, .int b => divInt a b
  | a, b => do return .float ((← a.toFloat) / (← b.toFloat))

/-- The quotient; a zero divisor gives an infinity of the signs' product, or NaN. -/
def quotient (a b : Number) : Except NumericFault Number := do
  if b.isZero then
    if a.isZero then return nan
    let x ← a.toFloat
    if x.isNaN then return nan
    return .float (Binary64.withSign (a.isNegative != b.isNegative) Binary64.infinity)
  else a.div b

/-- The remainder of the division that rounds toward zero, taken on doubles. -/
def remainder (a b : Number) : Except NumericFault Number := do
  if b.isZero then return nan
  let x ← a.toFloat
  if x.isInf || x.isNaN then return nan
  let y ← b.toFloat
  return .float (Binary64.remainder x y)

/-- The finite double's whole part by a rounding, none for a NaN or an infinity. -/
def wholeBy? (rounding : Dyadic → Int) : Number → Option Number
  | .int n => some (.int n)
  | .float x => (Dyadic.ofFloat? x).map fun d => .int (rounding d)

/-- A number in decimal: an integer by its digits, a double in the fewest digits that read back. -/
def text : Number → Except NumericFault String
  | .int n => integerText n
  | .float x => .ok (floatText x)

end Number
end RuleLedger

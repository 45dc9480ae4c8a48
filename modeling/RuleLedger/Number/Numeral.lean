import RuleLedger.Number.Basic
import RuleLedger.Text.Blank
import RuleLedger.Text.Quoted

/-! Unsigned decimal numerals: digits with an optional point among, before or after them, and an
optional power of ten. Digits of every script are read. -/
namespace RuleLedger.Numeral

def digitCount (cs : List Symbol) : Nat := (cs.takeWhile Text.isDecimal).length

/-- The length of a sign. -/
def signLength : List Symbol → Nat
  | c :: _ => if c = '+' || c = '-' then 1 else 0
  | [] => 0

/-- The length of a power of ten: the letter e, a sign or none, and at least one digit. -/
def powerLength : List Symbol → Nat
  | c :: cs =>
    if c = 'e' || c = 'E' then
      let digits := digitCount (cs.drop (signLength cs))
      if digits = 0 then 0 else 1 + signLength cs + digits
    else 0
  | [] => 0

/-- The length of the digits and the point, none without a digit. -/
def mantissaLength? (cs : List Symbol) : Option Nat :=
  let whole := digitCount cs
  match cs.drop whole with
  | .char '.' :: rest =>
    let fraction := digitCount rest
    if whole = 0 && fraction = 0 then none else some (whole + 1 + fraction)
  | _ => if whole = 0 then none else some whole

/-- The length of the longest numeral at the start of a text. -/
def length? (cs : List Symbol) : Option Nat :=
  (mantissaLength? cs).map fun n => n + powerLength (cs.drop n)

/-- The number that a sign and digits spell. -/
def signedDigits (cs : List Symbol) : Int :=
  match cs with
  | .char '-' :: ds => -(Text.digitsValue ds : Int)
  | ds => Text.digitsValue ds

/-- The value of a whole numeral. -/
def decimal (cs : List Symbol) : Decimal :=
  let mantissa := cs.takeWhile fun c : Symbol => c ≠ 'e' && c ≠ 'E'
  let power := signedDigits ((cs.dropWhile fun c : Symbol => c ≠ 'e' && c ≠ 'E').drop 1)
  let fraction := (mantissa.dropWhile fun c : Symbol => c ≠ '.').drop 1
  ⟨Text.digitsValue (mantissa.filter Text.isDecimal), power - fraction.length⟩

/-- The nearest double to a numeral after an optional sign. -/
def signedFloat (cs : List Symbol) : Float :=
  match cs with
  | .char '-' :: ds => Binary64.withSign true (decimal ds).toFloat
  | .char '+' :: ds => (decimal ds).toFloat
  | ds => (decimal ds).toFloat

/-- The length of an optional sign and the numeral after it. -/
def signedLength? (cs : List Symbol) : Option Nat :=
  (length? (cs.drop (signLength cs))).map fun n => signLength cs + n

/-- A text is shown between quotes up to a limit. -/
def notDecimal (s : Text) : NumericFault := .notDecimal ⟨(Text.quoted s).toList.take 200⟩

/-- The number that a text of digits spells. Too many decimal digits are noticed before an
ornamental digit after them, which cannot be read. -/
def readWhole (s : Text) : Except NumericFault Nat := do
  let n ← readDigits (s.toList.takeWhile Text.isDecimal)
  if s.toList.all Text.isDecimal then return n else .error (notDecimal s)

end RuleLedger.Numeral

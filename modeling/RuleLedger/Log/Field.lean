import RuleLedger.Log.Directive
import RuleLedger.Number.Rounded
import RuleLedger.Value.Display

/-! Arguments of messages as their directives show them. -/
namespace RuleLedger.Log

/-- How an argument is shown, its sizes being known. -/
structure Field where
  directive : Directive
  width : Nat
  precision : Option Nat

/-- The widest field, and the greatest precision, that is laid out. -/
def sizeLimit : Nat := 1 <<< 31 - 4

/-- A text in its parts: a sign, a mark for the base, and the rest. -/
structure Parts where
  sign : List Symbol
  base : List Symbol
  body : List Symbol

namespace Field

/-- The parts of a number, the sign for one that is not negative being up to the flags. -/
def number (f : Field) (negative : Bool) (base body : List Symbol) : Parts :=
  let sign : List Symbol := if negative then ['-'] else if f.directive.plus then ['+']
    else if f.directive.blank then [' '] else []
  ⟨sign, base, body⟩

/-- Fill a text up to the width of the field. -/
def fill (f : Field) (numeric : Bool) (p : Parts) : List Symbol :=
  let missing := f.width - (p.sign ++ p.base ++ p.body).length
  if f.directive.left then p.sign ++ p.base ++ p.body ++ List.replicate missing (Symbol.char ' ')
  else if numeric && f.directive.zeros then
    p.sign ++ p.base ++ List.replicate missing (Symbol.char '0') ++ p.body
  else List.replicate missing (Symbol.char ' ') ++ p.sign ++ p.base ++ p.body

/-- A text cut at the precision. -/
def text (f : Field) (s : Text) : List Symbol :=
  let cs := s.toList
  f.fill false ⟨[], [], (f.precision.map cs.take).getD cs⟩

/-- An argument as an integer; a fraction is cut off where it may be. -/
def whole? (cut : Bool) : Value → Option Int
  | .bool b => some (if b then 1 else 0)
  | .num (.int n) => some n
  | .num n => if cut then (n.wholeBy? Dyadic.truncate).bind fun
      | .int k => some k
      | .float _ => none
    else none
  | _ => none

/-- The digits of a number in at least as many places as the precision asks. -/
def wholeDigits (f : Field) (digits : List Symbol) : List Symbol :=
  List.replicate ((f.precision.getD 0) - digits.length) (Symbol.char '0') ++ digits

def decimal? (f : Field) (v : Value) : Option (List Symbol) := do
  let n ← whole? true v
  let s ← (integerText n.natAbs).toOption
  return f.fill true (f.number (decide (n < 0)) [] (f.wholeDigits (s : Text).toList))

/-- A number in base eight or sixteen; the marked form starts with zero and a letter. -/
def inBase? (f : Field) (base : Nat) (letter : Char) (upper : Bool) (v : Value) :
    Option (List Symbol) := do
  let n ← whole? false v
  let shown (cs : List Char) := (if upper then cs.map Char.toUpper else cs).map Symbol.char
  let mark := if f.directive.marked then ['0', letter] else []
  let digits := f.wholeDigits (shown (Nat.toDigits base n.natAbs))
  return f.fill true (f.number (decide (n < 0)) (shown mark) digits)

/-- An argument as a double. -/
def double? : Value → Option Float
  | .bool b => some (if b then 1.0 else 0.0)
  | .num n => n.toFloat.toOption
  | _ => none

def rounded? (f : Field) (form : Notation) (upper : Bool) (v : Value) : Option (List Symbol) := do
  let x ← double? v
  let cs := roundedText x form (f.precision.getD 6) f.directive.marked
  let cs := if upper then cs.map Char.toUpper else cs
  let negative := cs.head? == some '-'
  return f.fill true (f.number negative [] ((if negative then cs.drop 1 else cs).map .char))

/-- A text of one symbol, or the symbol of a number. -/
def symbol? (f : Field) (v : Value) : Option (List Symbol) := do
  let c ← match v with
    | .str s => match s.toList with
      | [c] => some c
      | _ => none
    | .num (.float _) => none
    | v => do
      let n ← whole? false v
      if 0 ≤ n && n < 0x110000 then some (Symbol.ofCode n.toNat) else none
  return f.fill false ⟨[], [], [c]⟩

/-- An argument as the letter of its directive asks. -/
def show? (f : Field) (v : Value) : Option (List Symbol) :=
  match f.directive.letter with
  | .char 's' => v.plain.toOption.map f.text
  | .char 'r' => v.display.toOption.map f.text
  | .char 'a' => v.display.toOption.map fun s => f.text (Text.escaped s)
  | .char 'd' | .char 'i' | .char 'u' => f.decimal? v
  | .char 'o' => f.inBase? 8 'o' false v
  | .char 'x' => f.inBase? 16 'x' false v
  | .char 'X' => f.inBase? 16 'x' true v
  | .char 'e' => f.rounded? .scientific false v
  | .char 'E' => f.rounded? .scientific true v
  | .char 'f' => f.rounded? .fixed false v
  | .char 'F' => f.rounded? .fixed true v
  | .char 'g' => f.rounded? .general false v
  | .char 'G' => f.rounded? .general true v
  | .char 'c' => f.symbol? v
  | _ => none

end Field
end RuleLedger.Log
